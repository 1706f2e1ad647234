import GenWalk.Numeral.Leading

/-!
Numbers as they come from a bounded count of binary digits, and how they are written with a given
number of decimal ones. All rounding goes to the nearest number, and of two that are as near to the
even one. The main statement `nearest_bounds` says that rounding is off by a half at most.
-/

namespace GenWalk

/-- The whole number nearest to a quotient, the even one of two that are as near. -/
def nearest (numerator denominator : Nat) : Nat :=
  let quotient := numerator / denominator
  let twice := 2 * (numerator % denominator)
  if twice < denominator || (twice = denominator && quotient % 2 = 0) then quotient
  else quotient + 1

theorem nearest_bounds (numerator denominator : Nat) (positive : 0 < denominator) :
    2 * numerator ≤ (2 * nearest numerator denominator + 1) * denominator ∧
      2 * (nearest numerator denominator * denominator) ≤ 2 * numerator + denominator := by
  have whole := Nat.div_add_mod numerator denominator
  have small := Nat.mod_lt numerator positive
  have split : (2 * (numerator / denominator) + 1) * denominator =
      2 * (denominator * (numerator / denominator)) + denominator := by grind
  have splitNext : (2 * (numerator / denominator + 1) + 1) * denominator =
      2 * (denominator * (numerator / denominator)) + 3 * denominator := by grind
  have product : numerator / denominator * denominator =
      denominator * (numerator / denominator) := Nat.mul_comm _ _
  have productNext : (numerator / denominator + 1) * denominator =
      denominator * (numerator / denominator) + denominator := by grind
  unfold nearest
  simp only [Bool.or_eq_true, Bool.and_eq_true, decide_eq_true_eq]
  split
  · rw [split, product]; omega
  · rw [splitNext, productNext]; omega

/-- A ratio of natural numbers, of which the second is not zero. -/
structure Magnitude where
  numerator : Nat
  denominator : Nat
deriving DecidableEq, Inhabited

namespace Magnitude

def scaled (magnitude : Magnitude) (base : Nat) : Int → Magnitude
  | .ofNat exponent => { magnitude with
      numerator := magnitude.numerator * Nat.pow base exponent }
  | .negSucc exponent => { magnitude with
      denominator := magnitude.denominator * Nat.pow base (exponent + 1) }

def rounded (magnitude : Magnitude) : Nat := nearest magnitude.numerator magnitude.denominator

def withBits (bits : Nat) (magnitude : Magnitude) : Magnitude :=
  if magnitude.numerator = 0 then magnitude
  else
    let guess : Int := Int.ofNat magnitude.numerator.log2 - Int.ofNat magnitude.denominator.log2 -
      Int.ofNat bits
    let large := magnitude.scaled 2 (-guess)
    let exponent :=
      if Nat.pow 2 bits ≤ large.numerator / large.denominator then guess + 1 else guess
    ({ numerator := (magnitude.scaled 2 (-exponent)).rounded, denominator := 1 } : Magnitude).scaled
      2 exponent

def leadingPlace (magnitude : Magnitude) : Int :=
  if magnitude.numerator = 0 then 0
  else
    let size (number : Nat) : Int := Int.ofNat (toString number).length
    let guess := size magnitude.numerator - size magnitude.denominator
    let scaled := magnitude.scaled 10 (-guess)
    if scaled.numerator < scaled.denominator then guess - 1 else guess

def zeros (count : Nat) : Text := List.replicate count (.char '0')

def padded (width number : Nat) : Text :=
  let digits := Text.ofNat number
  zeros (width - digits.length) ++ digits

def pointed (places : Nat) (keepsPoint : Bool) (digits : Text) : Text :=
  let size := digits.length - places
  digits.take size ++ (if places = 0 && !keepsPoint then [] else .char '.' :: digits.drop size)

def fixed (places : Nat) (keepsPoint : Bool) (magnitude : Magnitude) : Text :=
  pointed places keepsPoint (padded (places + 1) (magnitude.scaled 10 (Int.ofNat places)).rounded)

def significant (places : Nat) (magnitude : Magnitude) : Text × Int :=
  let place := magnitude.leadingPlace
  let digits := padded (places + 1) (magnitude.scaled 10 (Int.ofNat places - place)).rounded
  if places + 1 < digits.length then (digits.take (places + 1), place + 1) else (digits, place)

def exponentText (exponent : Int) : Text :=
  (if exponent < 0 then "e-" else "e+" : Text) ++ padded 2 exponent.natAbs

def scientific (places : Nat) (keepsPoint : Bool) (magnitude : Magnitude) : Text :=
  let (digits, exponent) := magnitude.significant places
  pointed places keepsPoint digits ++ exponentText exponent

def withoutEndingZeros (text : Text) : Text :=
  if text.contains (.char '.') then
    ((text.reverse.dropWhile (· == .char '0')).dropWhile (· == .char '.')).reverse
  else text

def general (digits : Nat) (keepsZeros : Bool) (magnitude : Magnitude) : Text :=
  let size := max 1 digits
  let (shown, exponent) := magnitude.significant (size - 1)
  let trimmed (text : Text) : Text := if keepsZeros then text else withoutEndingZeros text
  if exponent < -4 || Int.ofNat size ≤ exponent then
    trimmed (pointed (size - 1) keepsZeros shown) ++ exponentText exponent
  else trimmed (magnitude.fixed (Int.ofNat size - 1 - exponent).toNat keepsZeros)

end Magnitude

/-- A number with its sign, or one beyond all numbers, or none. -/
inductive Amount where
  | finite (isNegative : Bool) (magnitude : Magnitude)
  | infinite (isNegative : Bool)
  | undefined (isNegative : Bool)
deriving DecidableEq, Inhabited

namespace Amount

def isNegative : Amount → Bool
  | finite negative _ | infinite negative | undefined negative => negative

/-- Exponents beyond this are as good as this. -/
def exponentLimit : Nat := 20000

def leadingExponent (text : Text) : Int × Text :=
  match text with
  | .char mark :: rest =>
    let (sign, digits) := Numeral.sign rest
    if mark.toLower = 'e' && digits.head?.any (fun digit => (Numeral.digit? 10 digit).isSome) then
      let (exponent, behind) := Numeral.leadingNumber 10 digits
      (sign * Int.ofNat (min exponentLimit exponent), behind)
    else (0, text)
  | _ => (0, text)

def leadingMagnitude? (bits : Nat) (text : Text) : Option (Magnitude × Text) :=
  let startsWithHex := match text with
    | .char '0' :: .char mark :: digit :: _ =>
      mark.toLower = 'x' && (Numeral.digit? 16 digit).isSome
    | _ => false
  if startsWithHex then
    let (number, rest) := Numeral.leadingMarked text
    some (({ numerator := number, denominator := 1 } : Magnitude).withBits bits, rest)
  else
    let (before, rest) := Numeral.leadingDigits 10 text
    let (behind, rest) := match rest with
      | .char '.' :: places => Numeral.leadingDigits 10 places
      | _ => ([], rest)
    if before.isEmpty && behind.isEmpty then none
    else
      let (exponent, rest) := leadingExponent rest
      let number := Numeral.ofText 10 (before ++ behind)
      let whole : Magnitude := { numerator := number, denominator := 1 }
      some ((whole.scaled 10 (exponent - Int.ofNat behind.length)).withBits bits, rest)

def leading (bits : Nat) (text : Text) : Option (Amount × Text) :=
  let (sign, rest) := Numeral.sign (text.dropWhile Numeral.isSpace)
  let isNegative := decide (sign < 0)
  let startsWith (word : String) : Bool :=
    (rest.take word.length).map (fun glyph => match glyph with
      | .char letter => Glyph.char letter.toLower
      | other => other) = Text.ofString word
  if startsWith "infinity" then some (.infinite isNegative, rest.drop 8)
  else if startsWith "inf" then some (.infinite isNegative, rest.drop 3)
  else if startsWith "nan" then some (.undefined isNegative, rest.drop 3)
  else (leadingMagnitude? bits rest).map fun (magnitude, behind) =>
    (.finite isNegative magnitude, behind)

end Amount

end GenWalk
