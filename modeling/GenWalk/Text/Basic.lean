/-!
Text as a machine holds it: Unicode characters, bytes that belong to no character, and halves of
characters that are written as escapes. A stray byte is kept as it came, so that what is read from a
file can be written back byte for byte. The main statement `codePoint_ofCodePoint` says that there
is a glyph for every code point.
-/

namespace GenWalk

def isSurrogate (point : Nat) : Bool := 0xD800 ≤ point && point ≤ 0xDFFF

/-- The code points among those of half characters at which stray bytes are counted. -/
def countsByte (point : Nat) : Bool := 0xDC80 ≤ point && point ≤ 0xDCFF

structure HalfCharacter where
  codePoint : Nat
  isHalf : (isSurrogate codePoint && !countsByte codePoint) = true
deriving DecidableEq

/-- One position of a text. -/
inductive Glyph where
  | char (value : Char)
  | stray (value : UInt8)
  | half (value : HalfCharacter)
deriving DecidableEq, Inhabited

abbrev Text := List Glyph

namespace Glyph

/-- Stray bytes are counted above the low surrogates, where no character stands. -/
def codePoint : Glyph → Nat
  | char value => value.toNat
  | stray value => 0xDC00 + value.toNat
  | half value => value.codePoint

def ofCodePoint (point : Nat) : Glyph :=
  if countsByte point then .stray (.ofNat (point - 0xDC00))
  else if isHalf : (isSurrogate point && !countsByte point) = true then .half ⟨point, isHalf⟩
  else .char (Char.ofNat point)

theorem codePoint_ofCodePoint (point : Nat) (bound : point < 0x110000) :
    (ofCodePoint point).codePoint = point := by
  unfold ofCodePoint
  split
  next counted =>
    simp only [countsByte, Bool.and_eq_true, decide_eq_true_eq] at counted
    simp only [codePoint, UInt8.toNat_ofNat']
    omega
  next uncounted =>
    split
    next => rfl
    next whole =>
      have valid : point.isValidChar := by
        simp only [isSurrogate, uncounted, Bool.and_eq_true, decide_eq_true_eq] at whole
        simp only [Nat.isValidChar]
        grind
      rw [Char.ofNat, dif_pos valid]
      rfl

def char? : Glyph → Option Char
  | char value => some value
  | _ => none

def isChar (glyph : Glyph) : Bool := glyph.char?.isSome

def isHalf : Glyph → Bool
  | half _ => true
  | _ => false

def satisfies (property : Char → Bool) : Glyph → Bool
  | char value => property value
  | _ => false

end Glyph

namespace Text

def ofString (string : String) : Text := string.toList.map .char

instance : Coe String Text := ⟨ofString⟩

def ofCodePoints (points : List Nat) : Text := points.map Glyph.ofCodePoint

def toString? (text : Text) : Option String := (text.mapM Glyph.char?).map String.ofList

def isClean (text : Text) : Bool := text.all Glyph.isChar

def codePoints (text : Text) : List Nat := text.map Glyph.codePoint

def notAfter (first second : Text) : Bool := !second.codePoints.lex first.codePoints

def sorted (texts : List Text) : List Text := texts.mergeSort notAfter

def startsWith (text start : Text) : Bool := start.isPrefixOf text

def join (separator : Text) (texts : List Text) : Text := List.intercalate separator texts

def dropEnding (text ending : Text) : Text :=
  if ending.isSuffixOf text then text.take (text.length - ending.length) else text

def ofInt (value : Int) : Text := ofString (toString value)

def ofNat (value : Nat) : Text := ofString (toString value)

def splitOn (separator : Glyph) : Text → List Text
  | [] => [[]]
  | glyph :: rest =>
    if glyph = separator then [] :: splitOn separator rest
    else match splitOn separator rest with
      | [] => [[glyph]]
      | part :: parts => (glyph :: part) :: parts

def spanUntil (property : Glyph → Bool) (text : Text) : Text × Text :=
  (text.takeWhile (!property ·), text.dropWhile (!property ·))

end Text

end GenWalk
