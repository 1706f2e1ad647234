import GenWalk.Text.Blank
import GenWalk.Text.DecimalDigit
import GenWalk.Text.Lower
import GenWalk.Text.Quoted

/-!
Numbers as they are written: integers to several bases, and decimal numbers as floating-point ones.
The digits may be those of any script.
-/

namespace GenWalk.Numeral

def digitLimit : Nat := 4300

def digit? (base : Nat) (glyph : Glyph) : Option Nat :=
  let point := glyph.codePoint
  let value? :=
    if 0x30 ≤ point && point ≤ 0x39 then some (point - 0x30)
    else if 0x41 ≤ point && point ≤ 0x5A then some (point - 0x41 + 10)
    else if 0x61 ≤ point && point ≤ 0x7A then some (point - 0x61 + 10)
    else none
  value?.filter (· < base)

def ofDigits (base : Nat) (digits : List Nat) : Nat :=
  digits.foldl (fun number digit => number * base + digit) 0

/-- Glyphs that may surround a number: all blanks but the separators of ASCII. -/
def surrounds (glyph : Glyph) : Bool :=
  glyph.isBlank && !glyph.satisfies fun character =>
    0x1C ≤ character.toNat && character.toNat ≤ 0x1F

def body (text : Text) : Text := (text.trimBy surrounds).map Glyph.withAsciiDigit

def sign : Text → Int × Text
  | .char '-' :: rest => (-1, rest)
  | .char '+' :: rest => (1, rest)
  | text => (1, text)

def dropBaseMark (base : Nat) : Text → Text
  | .char '0' :: .char mark :: rest =>
    if (base = 2 && mark.toLower = 'b') || (base = 8 && mark.toLower = 'o') ||
        (base = 16 && mark.toLower = 'x') then rest
    else .char '0' :: .char mark :: rest
  | text => text

inductive Refusal where
  | notInteger (base : Nat) (text : Text)
  | tooManyDigits (count : Nat)
  | notReal (text : Text)
  | unbounded
deriving DecidableEq, Inhabited

def Refusal.message : Refusal → Text
  | notInteger base text => text.quoted ++ " is no integer to the base " ++ Text.ofNat base
  | tooManyDigits count =>
    Text.ofNat count ++ " digits are more than the " ++ Text.ofNat digitLimit ++ " allowed"
  | notReal text => text.quoted ++ " is no decimal number"
  | unbounded => "a place of the number counts too much"

/-- An integer with blanks around it and a sign before it, or why there is none. Too many digits are
noticed even before something that is no digit. -/
def integer (base : Nat) (text : Text) : Except Refusal Int :=
  let (sign, unsigned) := sign (body text)
  let (digits, rest) := Text.spanUntil (fun glyph => (digit? base glyph).isNone)
    (dropBaseMark base unsigned)
  if base = 10 && digitLimit < digits.length then .error (.tooManyDigits digits.length)
  else if digits.isEmpty || !rest.isEmpty then .error (.notInteger base text)
  else .ok (sign * Int.ofNat (ofDigits base (digits.filterMap (digit? base))))

def scaled (digits : List Nat) (exponent : Int) : Float :=
  let mantissa := ofDigits 10 digits
  if mantissa = 0 then 0.0
  else if 400 < exponent then 1.0 / 0.0
  else if exponent + digits.length < -400 then 0.0
  else Float.ofScientific mantissa (exponent < 0) exponent.natAbs

def unsignedReal? (text : Text) : Option Float :=
  let lower := text.lower
  if lower = Text.ofString "inf" || lower = Text.ofString "infinity" then some (1.0 / 0.0)
  else if lower = Text.ofString "nan" then some (0.0 / 0.0)
  else
    let (number, exponent) := Text.spanUntil (· == .char 'e') lower
    let (whole, fraction) := Text.spanUntil (· == .char '.') number
    let exponent? : Option Int := match exponent with
      | [] => some 0
      | _ :: digits =>
        let (sign, digits) := sign digits
        if digits.isEmpty then none
        else (digits.mapM (digit? 10)).map fun values => sign * Int.ofNat (ofDigits 10 values)
    match whole.mapM (digit? 10), (fraction.drop 1).mapM (digit? 10), exponent? with
    | some whole, some fraction, some exponent =>
      if whole.isEmpty && fraction.isEmpty then none
      else some (scaled (whole ++ fraction) (exponent - fraction.length))
    | _, _, _ => none

def real (text : Text) : Except Refusal Float :=
  let (sign, unsigned) := sign (body text)
  match unsignedReal? unsigned with
  | some size => .ok (if sign < 0 then -size else size)
  | none => .error (.notReal text)

def sexagesimal (zero : α) (add : α → α → α) (weigh : α → Nat → Except Refusal α)
    (parts : List α) : Except Refusal α := do
  let (total, _) ← parts.reverse.foldlM (fun (total, unit) part =>
    return (add total (← weigh part unit), unit * 60)) (zero, 1)
  return total

def sexagesimalInteger (text : Text) : Except Refusal Int := do
  let parts ← (Text.splitOn (.char ':') text).mapM (integer 10)
  sexagesimal 0 (· + ·) (fun part unit => .ok (part * Int.ofNat unit)) parts

def sexagesimalReal (text : Text) : Except Refusal Float := do
  let parts ← (Text.splitOn (.char ':') text).mapM real
  sexagesimal 0.0 (· + ·) (fun part unit =>
    if (Float.ofNat unit).isInf then .error .unbounded else .ok (part * Float.ofNat unit)) parts

end GenWalk.Numeral
