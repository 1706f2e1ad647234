import GenWalk.Text.Blank
import Mathlib.Data.List.DropRight

/-!
What is taken away at the ends of a text, and what is left. A text that is put between blanks is left
of the whole if it has no blank at its own ends (`Text.BareEnds.trim_between`).
-/

namespace GenWalk.Text

/-- Neither the first nor the last glyph is a blank. -/
structure BareEnds (text : Text) : Prop where
  first : ∀ glyph, text.head? = some glyph → glyph.isBlank = false
  last : ∀ glyph, text.getLast? = some glyph → glyph.isBlank = false

variable {text before after : Text}

theorem isBlank_append (first second : Text) :
    isBlank (first ++ second) = (isBlank first && isBlank second) := List.all_append

theorem trim_eq (text : Text) :
    text.trim = (text.dropWhile Glyph.isBlank).rdropWhile Glyph.isBlank := rfl

theorem trim_concat_blank {glyph : Glyph} (blank : glyph.isBlank = true) (text : Text) :
    trim (text ++ [glyph]) = text.trim := by
  unfold trim trimBy
  rw [List.dropWhile_append]
  split
  next nothing =>
    rw [List.isEmpty_iff.1 nothing]
    simp [blank]
  next => rw [List.reverse_concat, List.dropWhile_cons_of_pos blank]

theorem trim_append_blanks (blanks : ∀ glyph ∈ after, glyph.isBlank = true) :
    (text ++ after).trim = text.trim := by
  induction after using List.reverseRecOn with
  | nil => rw [List.append_nil]
  | append_singleton others glyph ih =>
    have last := blanks glyph (List.mem_append_right _ (List.mem_singleton_self _))
    rw [← List.append_assoc, trim_concat_blank last]
    exact ih fun other member => blanks other (List.mem_append_left _ member)

theorem trim_blanks_append (blanks : ∀ glyph ∈ before, glyph.isBlank = true) :
    (before ++ text).trim = text.trim := by
  rw [trim_eq, List.dropWhile_append_of_pos blanks, ← trim_eq]

theorem BareEnds.trim_eq_self (bare : text.BareEnds) : text.trim = text := by
  have begins : text.dropWhile Glyph.isBlank = text := by
    cases text with
    | nil => rfl
    | cons glyph rest =>
      have filled := bare.first glyph rfl
      exact List.dropWhile_cons_of_neg (by simp [filled])
  rw [trim_eq, begins, List.rdropWhile_eq_self_iff]
  intro filled blank
  rw [bare.last _ (List.getLast?_eq_some_getLast filled)] at blank
  cases blank

theorem BareEnds.trim_between (bare : text.BareEnds)
    (blanksBefore : ∀ glyph ∈ before, glyph.isBlank = true)
    (blanksAfter : ∀ glyph ∈ after, glyph.isBlank = true) :
    (before ++ text ++ after).trim = text := by
  rw [trim_append_blanks blanksAfter, trim_blanks_append blanksBefore, bare.trim_eq_self]

theorem bareEnds_trim (text : Text) : text.trim.BareEnds where
  first glyph start := by
    obtain ⟨rest, split⟩ := List.rdropWhile_prefix Glyph.isBlank (text.dropWhile Glyph.isBlank)
    have begins : (text.dropWhile Glyph.isBlank).head? = some glyph := by
      rw [← split, List.head?_append, ← trim_eq, start]
      rfl
    have bare := List.head?_dropWhile_not Glyph.isBlank text
    rw [begins] at bare
    exact bare
  last glyph ending := by
    have filled : text.trim ≠ [] := by
      intro empty
      rw [empty] at ending
      cases ending
    rw [List.getLast?_eq_some_getLast filled] at ending
    obtain rfl := Option.some.inj ending
    exact Bool.eq_false_iff.2 (List.rdropWhile_last_not Glyph.isBlank _ filled)

theorem exists_blanks_around (text : Text) : ∃ before after : Text,
    before.isBlank = true ∧ after.isBlank = true ∧ text = before ++ text.trim ++ after := by
  refine ⟨text.takeWhile Glyph.isBlank, (text.dropWhile Glyph.isBlank).rtakeWhile Glyph.isBlank,
    List.all_takeWhile, ?_, ?_⟩
  · exact List.all_eq_true.2 fun _ => List.mem_rtakeWhile_imp
  · rw [trim_eq, List.append_assoc, List.rdropWhile_append_rtakeWhile,
      List.takeWhile_append_dropWhile]

theorem trim_infix (text : Text) : text.trim <:+: text := by
  obtain ⟨before, after, _, _, whole⟩ := exists_blanks_around text
  exact ⟨before, after, whole.symm⟩

theorem dropEnding_append (text ending : Text) : (text ++ ending).dropEnding ending = text := by
  have there : ending.isSuffixOf (text ++ ending) = true :=
    List.isSuffixOf_iff_suffix.2 (List.suffix_append text ending)
  rw [dropEnding, if_pos there, List.length_append, Nat.add_sub_cancel, List.take_left]

theorem dropEnding_of_absent {ending : Text} (absent : ¬ending <:+ text) :
    text.dropEnding ending = text := by
  rw [dropEnding, if_neg (mt List.isSuffixOf_iff_suffix.1 absent)]

theorem exists_dropped_ending (text ending : Text) : ∃ dropped : Text,
    (dropped = [] ∨ dropped = ending) ∧ text = text.dropEnding ending ++ dropped := by
  by_cases there : ending <:+ text
  · obtain ⟨start, rfl⟩ := there
    exact ⟨ending, Or.inr rfl, by rw [dropEnding_append]⟩
  · exact ⟨[], Or.inl rfl, by rw [dropEnding_of_absent there, List.append_nil]⟩

theorem dropEnding_prefix (text ending : Text) : text.dropEnding ending <+: text := by
  obtain ⟨dropped, _, whole⟩ := exists_dropped_ending text ending
  exact ⟨dropped, whole.symm⟩

end GenWalk.Text
