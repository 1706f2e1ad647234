import GenWalk.Numeral

/-!
Integers as people write them: with blanks around them, a plus sign, leading zeros, underscores
between digits and a fraction of nothing but zeros. All of it is taken off, and a plain integer must
be left.
-/

namespace GenWalk.Numeral

inductive LooseRefusal where
  | unreadable
  | tooLong
deriving DecidableEq, Inhabited

def isAsciiDigit (glyph : Glyph) : Bool := glyph.satisfies Char.isDigit

def plainInteger (text : Text) : Except LooseRefusal Int :=
  let (sign, unsigned) := match text with
    | .char '-' :: rest => ((-1 : Int), rest)
    | _ => (1, text)
  let (digits, rest) := Text.spanUntil (!isAsciiDigit ·) unsigned
  if unsigned.head? = some (.char '0') then
    if unsigned.length = 1 then .ok 0 else .error .unreadable
  else if digitLimit < text.length - rest.length then .error .tooLong
  else if digits.isEmpty || !rest.isEmpty then .error .unreadable
  else .ok (sign * Int.ofNat (ofDigits 10 (digits.filterMap (digit? 10))))

def dropZeroFraction (text : Text) : Text :=
  let (whole, fraction) := Text.spanUntil (· == .char '.') text
  if 1 < fraction.length && (fraction.drop 1).all (· == .char '0') then whole else text

def dropLeadingZeros? (text : Text) : Option Text :=
  let starts (glyph : Glyph) : Bool :=
    glyph == .char '-' || (isAsciiDigit glyph && glyph != .char '0')
  match text with
  | [] => none
  | first :: rest =>
    if starts first then some text
    else if first = .char '0' then
      match rest.dropWhile fun glyph => glyph == .char '0' || glyph == .char '_' with
      | [] => text.getLast?.map ([·])
      | next :: more => if starts next then some (next :: more) else none
    else none

def joinGroups (text : Text) : Text :=
  let groups := Text.splitOn (.char '_') text
  if groups.all (!·.isEmpty) then groups.flatten else text

def looseInteger (text : Text) : Except LooseRefusal Int :=
  let body := text.trimBy surrounds
  let unsigned? := match body with
    | .char '+' :: .char '-' :: _ => none
    | .char '+' :: rest => some rest
    | _ => some body
  match unsigned?.bind fun unsigned => dropLeadingZeros? (dropZeroFraction unsigned) with
  | some tidy => plainInteger (joinGroups tidy)
  | none => .error .unreadable

end GenWalk.Numeral
