import GenWalk.Calendar
import GenWalk.Numeral
import GenWalk.Value
import GenWalk.Yaml.Cursor

/-!
The kinds of scalars. A plain scalar has the kind that its form shows; the value is then read from
it by the rules of the kind.
-/

namespace GenWalk.Yaml

inductive Tag where
  | null
  | boolean
  | integer
  | real
  | bytes
  | timestamp
  | text
  | sequence
  | mapping
  | set
  | orderedMap
  | pairs
  | merge
  | defaultValue
  | unknown
deriving DecidableEq, Inhabited

namespace Tag

def standardStart : String := "tag:yaml.org,2002:"

def standardNames : List (String × Tag) := [
  ("null", null), ("bool", boolean), ("int", integer), ("float", real), ("binary", bytes),
  ("timestamp", timestamp), ("str", text), ("seq", sequence), ("map", mapping), ("set", set),
  ("omap", orderedMap), ("pairs", pairs), ("merge", merge), ("value", defaultValue)]

def ofName (name : List Char) : Tag :=
  let start := standardStart.toList
  if start.isPrefixOf name then
    (standardNames.lookup (String.ofList (name.drop start.length))).getD unknown
  else unknown

end Tag

namespace Form

def trueWords : List String :=
  ["yes", "Yes", "YES", "true", "True", "TRUE", "on", "On", "ON"]

def falseWords : List String :=
  ["no", "No", "NO", "false", "False", "FALSE", "off", "Off", "OFF"]

def nullWords : List String := ["", "~", "null", "Null", "NULL"]

def afterSign : List Char → List Char
  | '+' :: rest | '-' :: rest => rest
  | characters => characters

def isDigitOrBar (character : Char) : Bool := character.isDigit || character = '_'

def isNumber : List Char → Bool
  | first :: rest => first.isDigit && rest.all isDigitOrBar
  | [] => false

def isLeadingNumber : List Char → Bool
  | first :: rest => first.isDigit && first ≠ '0' && rest.all isDigitOrBar
  | [] => false

def isSixtieth : List Char → Bool
  | [digit] => digit.isDigit
  | [tens, digit] => '0' ≤ tens && tens ≤ '5' && digit.isDigit
  | _ => false

def areSixtieths : (fuel : Nat) → List Char → Bool
  | 0, _ => false
  | fuel + 1, ':' :: rest =>
    let digits := rest.takeWhile (· ≠ ':')
    isSixtieth digits &&
      (digits.length = rest.length || areSixtieths fuel (rest.drop digits.length))
  | _, _ => false

def isSexagesimal (isFirst : List Char → Bool) (characters : List Char) : Bool :=
  let first := characters.takeWhile (· ≠ ':')
  isFirst first && areSixtieths (characters.length + 1) (characters.drop first.length)

def isInteger (characters : List Char) : Bool :=
  let body := afterSign characters
  let isMarked (isDigit : Char → Bool) (digits : List Char) : Bool :=
    !digits.isEmpty && digits.all fun digit => isDigit digit || digit = '_'
  (match body with
    | '0' :: 'b' :: digits => isMarked (fun digit => digit = '0' || digit = '1') digits
    | '0' :: 'x' :: digits =>
      isMarked (fun digit => (Numeral.digit? 16 (.char digit)).isSome) digits
    | '0' :: digits => isMarked (fun digit => '0' ≤ digit && digit ≤ '7') digits || digits.isEmpty
    | _ => isLeadingNumber body) ||
  isSexagesimal isLeadingNumber body

def isExponent : List Char → Bool
  | [] => true
  | mark :: sign :: digits =>
    (mark = 'e' || mark = 'E') && (sign = '+' || sign = '-') && !digits.isEmpty &&
      digits.all Char.isDigit
  | _ => false

def isReal (characters : List Char) : Bool :=
  let body := afterSign characters
  let whole := body.takeWhile (· ≠ '.')
  let fractionOf (tail : List Char) := tail.takeWhile isDigitOrBar
  let endsWell (tail : List Char) := isExponent (tail.drop (fractionOf tail).length)
  (match body.drop whole.length with
    | '.' :: tail =>
      (isNumber whole && endsWell tail) ||
      (isSexagesimal isNumber whole && tail.all isDigitOrBar)
    | _ => false) ||
  (match characters with
    | '.' :: tail => isNumber (fractionOf tail) && endsWell tail
    | _ => false) ||
  [".inf", ".Inf", ".INF"].contains (String.ofList body) ||
  [".nan", ".NaN", ".NAN"].contains (String.ofList characters)

def digits? (least most : Nat) (characters : List Char) : Option (Nat × List Char) :=
  let digits := (characters.take most).takeWhile Char.isDigit
  if digits.length < least then none
  else some (Numeral.ofDigits 10 (digits.map fun digit => digit.toNat - 0x30),
    characters.drop digits.length)

def literal? (character : Char) : List Char → Option (List Char)
  | first :: rest => if first = character then some rest else none
  | [] => none

def zone? (characters : List Char) : Option (Option ZoneOffset) :=
  match characters.dropWhile isSpaceOrTab with
  | [] => if characters.isEmpty then some none else none
  | ['Z'] => some (some 0)
  | sign :: rest => do
    if sign ≠ '+' && sign ≠ '-' then none
    let (hours, rest) ← digits? 1 2 rest
    let minutes ← match rest with
      | [] => some 0
      | _ => do
        let (minutes, rest) ← digits? 2 2 (← literal? ':' rest)
        if rest.isEmpty then some minutes else none
    let offset : Int := hours * 60 + minutes
    some (some (if sign = '-' then -offset else offset))

def microseconds (fraction : List Char) : Nat :=
  let digits := (fraction.take 6).map fun digit => digit.toNat - 0x30
  Numeral.ofDigits 10 (digits ++ List.replicate (6 - digits.length) 0)

def moment? (characters : List Char) : Option Moment := do
  let (year, rest) ← digits? 4 4 characters
  let (month, rest) ← digits? 1 2 (← literal? '-' rest)
  let (day, rest) ← digits? 1 2 (← literal? '-' rest)
  match rest with
  | [] => return { year, month, day }
  | first :: more =>
    let time := if first = 'T' || first = 't' then more else rest.dropWhile isSpaceOrTab
    if time.length = rest.length then none
    let (hour, rest) ← digits? 1 2 time
    let (minute, rest) ← digits? 2 2 (← literal? ':' rest)
    let (second, rest) ← digits? 2 2 (← literal? ':' rest)
    let (fraction, rest) := match rest with
      | '.' :: tail => (tail.takeWhile Char.isDigit, tail.dropWhile Char.isDigit)
      | _ => ([], rest)
    let zone ← zone? rest
    let time := { hour, minute, second, microsecond := microseconds fraction }
    return { year, month, day, time? := some time, zone? := zone }

def isTimestamp (characters : List Char) : Bool :=
  match moment? characters with
  | some moment => moment.time?.isSome || characters.length = 10
  | none => false

def characters (text : Text) : List Char :=
  let body := if text.getLast? = some (.char '\n') then text.dropLast else text
  body.map fun glyph => glyph.char?.getD '\uFFFD'

def tagOf (text : Text) : Tag :=
  let body := characters text
  let word := String.ofList body
  if trueWords.contains word || falseWords.contains word then .boolean
  else if isReal body then .real
  else if isInteger body then .integer
  else if body = ['<', '<'] then .merge
  else if nullWords.contains word then .null
  else if isTimestamp body then .timestamp
  else if body = ['='] then .defaultValue
  else if word = "!" || word = "&" || word = "*" then .unknown
  else .text

end Form

namespace Scalar

def numeric (attempt : Except Numeral.Refusal α) : Except YamlFault α :=
  attempt.mapError fun refusal => .misfit (.number refusal)

def integer (text : Text) : Except YamlFault Value := do
  let digits := text.filter (· ≠ .char '_')
  if digits.isEmpty then throw (.misfit .noDigits)
  let (sign, body) := Numeral.sign digits
  let number ← match body with
    | [] => throw (.misfit .noDigits)
    | [.char '0'] => .ok 0
    | .char '0' :: .char 'b' :: rest => numeric (Numeral.integer 2 rest)
    | .char '0' :: .char 'x' :: rest => numeric (Numeral.integer 16 rest)
    | .char '0' :: _ => numeric (Numeral.integer 8 body)
    | _ =>
      if body.contains (.char ':') then
        numeric (Numeral.sexagesimalInteger body)
      else numeric (Numeral.integer 10 body)
  return .integer (sign * number)

def real (text : Text) : Except YamlFault Value := do
  let body := Text.lower (text.filter (· ≠ .char '_'))
  if body.isEmpty then throw (.misfit .noDigits)
  let (sign, unsigned) := Numeral.sign body
  let size ←
    if unsigned = Text.ofString ".inf" then .ok (1.0 / 0.0)
    else if unsigned = Text.ofString ".nan" then .ok (0.0 / 0.0)
    else if unsigned.contains (.char ':') then
      numeric (Numeral.sexagesimalReal unsigned)
    else numeric (Numeral.real unsigned)
  return .real (if sign < 0 then -size else size)

def boolean (text : Text) : Except YamlFault Value :=
  let lower := text.lower
  let isOneOf (words : List String) := words.any fun word => lower = Text.ofString word
  if isOneOf Form.trueWords then .ok (.boolean true)
  else if isOneOf Form.falseWords then .ok (.boolean false)
  else .error (.misfit (.unknownWord lower))

def timestamp (text : Text) : Except YamlFault Value :=
  match Form.moment? (Form.characters text) with
  | none => .error (.misfit .noTime)
  | some moment => match moment.problem? with
    | some problem => .error (.misfit (.moment problem))
    | none => .ok (if moment.time?.isSome then .timestamp moment else .date moment)

def base64Value? (point : Nat) : Option Nat :=
  if 0x41 ≤ point && point ≤ 0x5A then some (point - 0x41)
  else if 0x61 ≤ point && point ≤ 0x7A then some (point - 0x61 + 26)
  else if 0x30 ≤ point && point ≤ 0x39 then some (point - 0x30 + 52)
  else if point = 0x2B then some 62
  else if point = 0x2F then some 63
  else none

/-- Bytes in groups of four signs of six bits. Other signs are passed over; enough equals signs
behind at least two signs of a group end the data. -/
def base64 : (group : List Nat) → (padding : Nat) → List Nat → Option Bytes
  | group, _, [] => if group.isEmpty then some [] else none
  | group, padding, point :: rest =>
    if point = 0x3D then
      if 2 ≤ group.length && 4 ≤ group.length + padding + 1 then
        some (bytesOf (group ++ List.replicate (4 - group.length) 0) (group.length - 1))
      else base64 group (if 2 ≤ group.length then padding + 1 else padding) rest
    else match base64Value? point with
      | none => base64 group padding rest
      | some value =>
        if group.length = 3 then
          (base64 [] 0 rest).map (bytesOf (group ++ [value]) 3 ++ ·)
        else base64 (group ++ [value]) 0 rest
where
  bytesOf (group : List Nat) (count : Nat) : Bytes :=
    let number := Numeral.ofDigits 64 group
    [UInt8.ofNat (number / 0x10000), UInt8.ofNat (number / 0x100), UInt8.ofNat number].take count

def value (tag : Tag) (text : Text) : Except YamlFault Value :=
  match tag with
  | .null => .ok .null
  | .boolean => boolean text
  | .integer => integer text
  | .real => real text
  | .text => .ok (.text text)
  | .timestamp => timestamp text
  | .bytes =>
    if text.all (·.codePoint < 0x80) then
      match base64 [] 0 text.codePoints with
      | some bytes => .ok (.bytes bytes)
      | none => .error .malformed
    else .error .malformed
  | _ => .error .malformed

end Scalar

end GenWalk.Yaml
