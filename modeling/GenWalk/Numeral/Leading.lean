import GenWalk.Numeral

/-!
Numbers at the start of a text, with whatever stands behind them. The main statement
`leadingDigits_append` says that the digits and the rest together are the text that was read.
-/

namespace GenWalk.Numeral

def leadingDigits (base : Nat) (text : Text) : Text × Text :=
  text.spanUntil fun glyph => (digit? base glyph).isNone

theorem leadingDigits_append (base : Nat) (text : Text) :
    (leadingDigits base text).1 ++ (leadingDigits base text).2 = text := by
  unfold leadingDigits Text.spanUntil
  exact List.takeWhile_append_dropWhile

def ofText (base : Nat) (digits : Text) : Nat := ofDigits base (digits.filterMap (digit? base))

def leadingNumber (base : Nat) (text : Text) : Nat × Text :=
  ((ofText base (leadingDigits base text).1), (leadingDigits base text).2)

def leadingMarked (text : Text) : Nat × Text :=
  match text with
  | .char '0' :: .char mark :: digit :: rest =>
    if mark.toLower = 'x' && (digit? 16 digit).isSome then leadingNumber 16 (digit :: rest)
    else leadingNumber 8 text
  | .char '0' :: _ => leadingNumber 8 text
  | _ => leadingNumber 10 text

def isSpace (glyph : Glyph) : Bool :=
  glyph.satisfies fun character => character = ' ' || ('\t' ≤ character && character ≤ '\r')

def decimal? (text : Text) : Option Nat :=
  if text.isEmpty then none else (text.mapM (digit? 10)).map (ofDigits 10)

def plainInteger? (text : Text) : Option Int :=
  let (sign, digits) := sign (text.trimBy isSpace)
  (decimal? digits).map fun number => sign * Int.ofNat number

end GenWalk.Numeral
