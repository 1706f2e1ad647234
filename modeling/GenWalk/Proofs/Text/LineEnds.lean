import GenWalk.Text.Quoted

/-!
Line ends in texts. Numbers and escapes are written without any, so that the lines of a text which is
put together are counted by its other parts.
-/

namespace GenWalk.Text

def lineEnd : Glyph := .char '\n'

def lineEnds (text : Text) : Nat := text.count lineEnd

@[simp] theorem lineEnds_append (first second : Text) :
    lineEnds (first ++ second) = lineEnds first + lineEnds second := List.count_append

theorem lineEnds_eq_zero {text : Text} : text.lineEnds = 0 ↔ lineEnd ∉ text := List.count_eq_zero

theorem lineEnds_toDigits {base : Nat} (proper : 1 < base) (number : Nat) :
    lineEnds ((Nat.toDigits base number).map .char) = 0 := by
  induction number using Nat.strongRecOn with
  | ind number ih =>
    have single (digit : Nat) : lineEnds [.char digit.digitChar] = 0 := by
      simp [lineEnds, lineEnd]
    rw [Nat.toDigits_eq_if proper]
    split
    next => exact single number
    next large =>
      have smaller : number / base < number := Nat.div_lt_self (by omega) proper
      rw [List.map_append, lineEnds_append, ih _ smaller, Nat.zero_add]
      exact single _

theorem ofNat_eq (number : Nat) : ofNat number = (Nat.toDigits 10 number).map .char := by
  rw [ofNat, ofString, Nat.toString_eq_ofList_toDigits, String.toList_ofList]

@[simp] theorem lineEnds_ofNat (number : Nat) : (ofNat number).lineEnds = 0 := by
  rw [ofNat_eq]
  exact lineEnds_toDigits (by decide) number

@[simp] theorem lineEnds_ofInt (value : Int) : (ofInt value).lineEnds = 0 := by
  rw [ofInt, Int.toString_eq_repr, Int.repr_eq_if]
  split
  next => exact lineEnds_ofNat value.toNat
  next =>
    rw [ofString, String.toList_append, List.map_append, lineEnds_append]
    exact congrArg (0 + ·) (lineEnds_ofNat (-value).toNat)

@[simp] theorem lineEnds_numericEscape (point : Nat) : (numericEscape point).lineEnds = 0 := by
  have digits (width : Nat) : (hexadecimal width point).lineEnds = 0 := by
    have padding (count : Nat) : lineEnds (List.replicate count (.char '0')) = 0 := by
      simp [lineEnds, lineEnd, List.count_replicate]
    rw [hexadecimal, lineEnds_append, padding, lineEnds_toDigits (by decide)]
  unfold numericEscape
  split
  next => rw [lineEnds_append, digits]; rfl
  next =>
    split
    next => rw [lineEnds_append, digits]; rfl
    next => rw [lineEnds_append, digits]; rfl

end GenWalk.Text
