import GenWalk.Yaml.Quotation
import GenWalk.Yaml.Token
import GenWalk.Text.Utf8

/-!
The tokens that are words: plain scalars, names of anchors, tags, and the directives at the head of
a document.
-/

namespace GenWalk.Yaml.Reading

def isFlowMark (character : Char) : Bool := ",[]\x7b\x7d".toList.contains character

def plainRun (inFlow : Bool) : List Char → List Char
  | [] => []
  | character :: rest =>
    if endsWord (some character) then []
    else if character = ':' && (endsWord rest.head? || (inFlow && rest.head?.any isFlowMark)) then
      []
    else if inFlow && (isFlowMark character || character = '?') then []
    else character :: plainRun inFlow rest

inductive PlainGap where
  | none
  | some (points : List Nat)

def plainBreaks : (fuel : Nat) → Reading (Option (List Nat))
  | 0 => return Option.some []
  | fuel + 1 => do
    skipSpaces
    match ← takeBreak? with
    | Option.none => return Option.some []
    | Option.some break? =>
      if (← get).atSeparator then return Option.none
      return (← plainBreaks fuel).map (break?.toNat :: ·)

def plainGap : Reading (PlainGap × Bool) := do
  let blanks ← takeWhile (· = ' ')
  match ← takeBreak? with
  | Option.none => return (if blanks.isEmpty then .none else .some (pointsOf blanks), false)
  | Option.some break? =>
    if (← get).atSeparator then return (.none, true)
    match ← plainBreaks ((← get).rest.length + 1) with
    | Option.none => return (.none, true)
    | Option.some breaks => return (.some (folded break? breaks), true)

def plainScalar (inFlow : Bool) (column : Int) :
    (fuel : Nat) → (gap : List Nat) → (brokenBefore : Bool) → Reading (List Nat × Bool)
  | 0, _, brokenBefore => return ([], brokenBefore)
  | fuel + 1, gap, brokenBefore => do
    if (← current) = Option.some '#' then return ([], brokenBefore)
    let word := plainRun inFlow (← get).rest
    if word.isEmpty then return ([], brokenBefore)
    skip word.length
    let (next, broken) ← plainGap
    match next with
    | .none => return (gap ++ pointsOf word, broken)
    | .some points =>
      let cursor ← get
      if cursor.current = Option.some '#' || (!inFlow && cursor.column < column) then
        return (gap ++ pointsOf word, broken)
      let (rest, broken) ← plainScalar inFlow column fuel points broken
      return (gap ++ pointsOf word ++ rest, broken)

def anchorName : Reading (List Char) := do
  skip 1
  let name ← takeWhile isNameCharacter
  if name.isEmpty then fail
  let next ← current
  unless endsWord next || next.any ("?:,]\x7d%@\x60".toList.contains ·) do fail
  return name

def isUriCharacter (character : Char) : Bool :=
  character.isAlphanum || "-;/?:@&=+$,_.!~*\x27()[]".toList.contains character

def uriBytes : (fuel : Nat) → Reading Bytes
  | 0 => return []
  | fuel + 1 => do
    if (← current) ≠ Option.some '%' then return []
    skip 1
    let byte ← takeHex 2
    return UInt8.ofNat byte :: (← uriBytes fuel)

def uriRest : (fuel : Nat) → Reading (List Char)
  | 0 => return []
  | fuel + 1 => do
    let plain ← takeWhile isUriCharacter
    if (← current) ≠ Option.some '%' then return plain
    match Utf8.decodeStrict? (← uriBytes ((← get).rest.length + 1)) with
    | Option.none => fail
    | Option.some text => return plain ++ text.filterMap Glyph.char? ++ (← uriRest fuel)

def uri : Reading (List Char) := do
  let characters ← uriRest ((← get).rest.length + 1)
  if characters.isEmpty then fail
  return characters

def tagHandle : Reading (List Char) := do
  if (← current) ≠ Option.some '!' then fail
  skip 1
  if (← current) = Option.some ' ' then return ['!']
  let name ← takeWhile isNameCharacter
  if (← current) ≠ Option.some '!' then fail
  skip 1
  return '!' :: name ++ ['!']

def tagName : Reading TagName := do
  let next := (← get).peek 1
  let name ← if next = Option.some '<' then do
      skip 2
      let ending ← uri
      if (← current) ≠ Option.some '>' then fail
      skip 1
      pure { handle? := Option.none, ending }
    else if endsWord next then do
      skip 1
      pure { handle? := Option.none, ending := ['!'] }
    else do
      let word := ((← get).rest.drop 1).takeWhile fun character =>
        !(character = ' ' || isBreak character)
      let handle ← if word.contains '!' then tagHandle else do
        skip 1
        pure ['!']
      pure { handle? := Option.some handle, ending := ← uri }
  unless endsToken (← current) do fail
  return name

def decimal : Reading Nat := do
  let digits ← takeWhile Char.isDigit
  if digits.isEmpty then fail
  return digits.foldl (fun number digit => number * 10 + (digit.toNat - 0x30)) 0

def directive : Reading Directive := do
  skip 1
  let name ← takeWhile isNameCharacter
  if name.isEmpty then fail
  unless endsToken (← current) do fail
  let directive ← match String.ofList name with
    | "YAML" => do
      skipSpaces
      let major ← decimal
      if (← current) ≠ Option.some '.' then fail
      skip 1
      let minor ← decimal
      unless endsToken (← current) do fail
      pure (.version major minor)
    | "TAG" => do
      skipSpaces
      let handle ← tagHandle
      if (← current) ≠ Option.some ' ' then fail
      skipSpaces
      let start ← uri
      unless endsToken (← current) do fail
      pure (.tagHandle handle start)
    | _ => do
      discard (takeWhile (!isBreak ·))
      pure .other
  skipToLineEnd
  return directive

end GenWalk.Yaml.Reading
