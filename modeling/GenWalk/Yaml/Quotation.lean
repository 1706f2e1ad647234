import GenWalk.Yaml.Cursor

/-!
Scalars in quotes and scalars in blocks, which may run over several lines. What stands on one line
is kept; a single line break becomes a space, and further ones stay.
-/

namespace GenWalk.Yaml

def pointsOf (characters : List Char) : List Nat := characters.map Char.toNat

namespace Reading

def shortEscapes : List (Char × Nat) := [
  ('0', 0x00), ('a', 0x07), ('b', 0x08), ('t', 0x09), ('\t', 0x09), ('n', 0x0A), ('v', 0x0B),
  ('f', 0x0C), ('r', 0x0D), ('e', 0x1B), (' ', 0x20), ('"', 0x22), ('\\', 0x5C), ('/', 0x2F),
  ('N', 0x85), ('_', 0xA0), ('L', 0x2028), ('P', 0x2029)]

def numericEscapes : List (Char × Nat) := [('x', 2), ('u', 4), ('U', 8)]

def takeHex (count : Nat) : Reading Nat := do
  let digits := ((← get).rest.take count).mapM fun digit => Numeral.digit? 16 (.char digit)
  match digits with
  | some digits =>
    if digits.length < count then fail
    skip count
    return Numeral.ofDigits 16 digits
  | none => fail

def escapedPoint (point : Nat) : Reading Nat := do
  if point < 0x110000 then return point
  else throw (.misfit (.codePoint point))

def quotedBreaks : (fuel : Nat) → Reading (List Nat)
  | 0 => return []
  | fuel + 1 => do
    if (← get).atSeparator then fail
    discard (takeWhile isSpaceOrTab)
    match ← takeBreak? with
    | none => return []
    | some break? => return break?.toNat :: (← quotedBreaks fuel)

def folded (first : Char) (more : List Nat) : List Nat :=
  if first ≠ '\n' then first.toNat :: more
  else if more.isEmpty then [0x20]
  else more

def quotedWord (double : Bool) : (fuel : Nat) → Reading (List Nat)
  | 0 => return []
  | fuel + 1 => do
    let plain ← takeWhile fun character =>
      !isSpaceOrTab character && !isBreak character && character ≠ '\x27' && character ≠ '"' &&
        character ≠ '\\'
    let before := pointsOf plain
    match (← get).rest with
    | '\x27' :: next =>
      if double then skip 1; return before ++ 0x27 :: (← quotedWord double fuel)
      else if next.head? = some '\x27' then
        skip 2; return before ++ 0x27 :: (← quotedWord double fuel)
      else return before
    | '"' :: _ =>
      if double then return before
      skip 1; return before ++ 0x22 :: (← quotedWord double fuel)
    | '\\' :: next =>
      skip 1
      if !double then return before ++ 0x5C :: (← quotedWord double fuel)
      let escaped ← match next with
        | [] => fail
        | letter :: _ => match shortEscapes.lookup letter, numericEscapes.lookup letter with
          | some point, _ => skip 1; pure [point]
          | none, some count => skip 1; pure [← escapedPoint (← takeHex count)]
          | none, none =>
            if isBreak letter then
              discard takeBreak?
              quotedBreaks (next.length + 1)
            else fail
      return before ++ escaped ++ (← quotedWord double fuel)
    | _ => return before

def quotedGap : Reading (List Nat) := do
  let blanks ← takeWhile isSpaceOrTab
  if (← current).isNone then fail
  match ← takeBreak? with
  | none => return pointsOf blanks
  | some break? => return folded break? (← quotedBreaks ((← get).rest.length + 1))

def quotedRest (double : Bool) : (fuel : Nat) → Reading (List Nat)
  | 0 => fail
  | fuel + 1 => do
    if (← current) = some (if double then '"' else '\x27') then
      skip 1
      return []
    let gap ← quotedGap
    let word ← quotedWord double (fuel + 1)
    return gap ++ word ++ (← quotedRest double fuel)

def quotedScalar (double : Bool) : Reading (List Nat) := do
  skip 1
  let fuel := (← get).rest.length + 1
  let word ← quotedWord double fuel
  return word ++ (← quotedRest double fuel)

inductive Chomping where
  | strip
  | clip
  | keep
deriving DecidableEq

def blockHeader : Reading (Chomping × Option Nat) := do
  let chomping? : Reading (Option Chomping) := do
    match ← current with
    | some '+' => skip 1; return some .keep
    | some '-' => skip 1; return some .strip
    | _ => return none
  let indentation? : Reading (Option Nat) := do
    match ← current with
    | some digit =>
      if !digit.isDigit then return none
      if digit = '0' then fail
      skip 1
      return some (digit.toNat - 0x30)
    | none => return none
  let chomping ← chomping?
  let increment ← indentation?
  let chomping ← if chomping.isNone && increment.isSome then chomping? else pure chomping
  unless endsToken (← current) do fail
  return (chomping.getD .clip, increment)

def skipToColumn (column : Nat) : Reading Unit := do
  let cursor ← get
  let spaces := (cursor.rest.takeWhile (· = ' ')).length
  skip (min spaces (column - cursor.column))

def blockBreaks (column : Nat) : (fuel : Nat) → Reading (List Nat)
  | 0 => return []
  | fuel + 1 => do
    skipToColumn column
    match ← takeBreak? with
    | none => return []
    | some break? => return break?.toNat :: (← blockBreaks column fuel)

def blockLead : (fuel : Nat) → (furthest : Nat) → Reading (List Nat × Nat)
  | 0, furthest => return ([], furthest)
  | fuel + 1, furthest => do
    skipSpaces
    let furthest := max furthest (← get).column
    match ← takeBreak? with
    | none => return ([], furthest)
    | some break? =>
      let (breaks, furthest) ← blockLead fuel furthest
      return (break?.toNat :: breaks, furthest)

def blockLines (isFolded : Bool) (column : Nat) : (fuel : Nat) → (breaks : List Nat) →
    Reading (List Nat × List Nat × List Nat)
  | 0, breaks => return ([], [], breaks)
  | fuel + 1, breaks => do
    let cursor ← get
    if cursor.column ≠ column || cursor.current.isNone then return ([], [], breaks)
    let startsBlank := cursor.current.any isSpaceOrTab
    let line ← takeWhile (!isBreak ·)
    let lineBreak := ((← takeBreak?).map fun break? => [break?.toNat]).getD []
    let after ← blockBreaks column ((← get).rest.length + 1)
    let next ← get
    let head := breaks ++ pointsOf line
    if next.column ≠ column || next.current.isNone then return (head, lineBreak, after)
    let joint :=
      if isFolded && lineBreak = [0x0A] && !startsBlank && !next.current.any isSpaceOrTab then
        if after.isEmpty then [0x20] else []
      else lineBreak
    let (text, last, rest) ← blockLines isFolded column fuel after
    return (head ++ joint ++ text, last, rest)

def blockScalar (isFolded : Bool) (indentation : Int) : Reading (List Nat) := do
  skip 1
  let (chomping, increment) ← blockHeader
  skipToLineEnd
  let least := (max 1 (indentation + 1)).toNat
  let fuel := (← get).rest.length + 1
  let (breaks, column) ← match increment with
    | none => do
      let (breaks, furthest) ← blockLead fuel 0
      pure (breaks, max least furthest)
    | some increment => do
      let column := least + increment - 1
      pure (← blockBreaks column fuel, column)
  let (text, last, after) ← blockLines isFolded column fuel breaks
  return text ++ (if chomping = .strip then [] else last) ++
    (if chomping = .keep then after else [])

end Reading

end GenWalk.Yaml
