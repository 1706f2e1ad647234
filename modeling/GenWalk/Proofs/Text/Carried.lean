import GenWalk.Fault

/-!
Names that a call to the operating system can carry: the null character would end a name before its
time, and half a character has no bytes.
-/

namespace GenWalk

def Glyph.isCarried : Glyph → Bool
  | char value => value != '\x00'
  | stray _ => true
  | half _ => false

/-- A name that a call to the operating system can carry. -/
def Text.Carried (text : Text) : Prop := ∀ glyph ∈ text, glyph.isCarried

instance (text : Text) : Decidable text.Carried :=
  inferInstanceAs (Decidable (∀ glyph ∈ text, glyph.isCarried))

theorem Glyph.isCarried_iff (glyph : Glyph) :
    glyph.isCarried ↔ glyph.isHalf = false ∧ glyph ≠ .char '\x00' := by
  cases glyph with
  | char value => simp [isCarried, isHalf]
  | stray value => simp [isCarried, isHalf]
  | half value => simp [isCarried, isHalf]

theorem Fault.ofName?_eq_none_iff (name : Text) : ofName? name = none ↔ name.Carried := by
  have carried : name.Carried ↔
      (∀ glyph ∈ name, glyph.isHalf = false) ∧ Glyph.char '\x00' ∉ name := by
    simp only [Text.Carried, Glyph.isCarried_iff, forall_and]
    exact and_congr_right' ⟨fun others member => others _ member rfl, fun absent glyph member same =>
      absent (same ▸ member)⟩
  rw [carried]
  unfold ofName? ofHalves?
  by_cases halves : name.any Glyph.isHalf = true
  · have some : ¬∀ glyph ∈ name, glyph.isHalf = false := by
      obtain ⟨glyph, member, isHalf⟩ := List.any_eq_true.1 halves
      intro none
      exact absurd isHalf (by rw [none glyph member]; decide)
    simp [halves, some]
  · have none : ∀ glyph ∈ name, glyph.isHalf = false := by
      intro glyph member
      rw [Bool.not_eq_true, List.any_eq_false] at halves
      exact Bool.eq_false_iff.2 (halves glyph member)
    rw [if_neg halves, Option.none_or, and_iff_right none]
    simp

theorem Text.refusedFrom_ne_nil (start : Nat) (points : List Nat) : refusedFrom start points ≠ [] := by
  unfold refusedFrom
  dsimp only
  split
  next => simp [ofString]
  next => simp [ofString]

end GenWalk
