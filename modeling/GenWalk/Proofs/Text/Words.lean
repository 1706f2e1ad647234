import GenWalk.Text.Blank

/-!
The words of a text. `Text.Parted` says how words stand in a text, without saying how they are
found; the main statement `Text.parted_words` says that the words which are found stand in it so.
Nothing but blanks is lost with them (`Text.Parted.flatten_eq`).
-/

namespace GenWalk.Text

/-- The text is made of the words, in order, and of blanks. A word goes on to the next blank or to
the end of the text. -/
inductive Parted : Text → List Text → Prop where
  | blanks {gap : Text} (blank : ∀ glyph ∈ gap, glyph.isBlank = true) : Parted gap []
  | word {gap word rest : Text} {others : List Text} (blank : ∀ glyph ∈ gap, glyph.isBlank = true)
      (filled : word ≠ []) (solid : ∀ glyph ∈ word, glyph.isBlank = false)
      (ends : ∀ next, rest.head? = some next → next.isBlank = true) (goesOn : Parted rest others) :
      Parted (gap ++ word ++ rest) (word :: others)

namespace Parted

variable {glyph : Glyph} {text rest word : Text} {words others : List Text}

theorem cons_blank (blank : glyph.isBlank = true) (parted : Parted rest words) :
    Parted (glyph :: rest) words := by
  cases parted with
  | blanks allBlank => exact .blanks (List.forall_mem_cons.2 ⟨blank, allBlank⟩)
  | word allBlank filled solid ends goesOn =>
    exact .word (List.forall_mem_cons.2 ⟨blank, allBlank⟩) filled solid ends goesOn

theorem cons_alone (solid : glyph.isBlank = false)
    (ends : ∀ next, rest.head? = some next → next.isBlank = true) (parted : Parted rest words) :
    Parted (glyph :: rest) ([glyph] :: words) := by
  have begins : ∀ other ∈ ([] : Text), other.isBlank = true := nofun
  exact .word begins (List.cons_ne_nil _ _) (List.forall_mem_singleton.2 solid) ends parted

theorem cons_joined (solid : glyph.isBlank = false)
    (begins : ∀ next, rest.head? = some next → next.isBlank = false)
    (parted : Parted rest (word :: others)) :
    Parted (glyph :: rest) ((glyph :: word) :: others) := by
  cases parted with
  | @word gap _ later _ blank filled inside ends goesOn =>
    cases gap with
    | nil =>
      exact .word blank (List.cons_ne_nil _ _) (List.forall_mem_cons.2 ⟨solid, inside⟩) ends goesOn
    | cons first others =>
      have clash := blank first List.mem_cons_self
      rw [begins first rfl] at clash
      cases clash

theorem solid_of_mem (parted : Parted text words) :
    ∀ word ∈ words, word ≠ [] ∧ ∀ glyph ∈ word, glyph.isBlank = false := by
  induction parted with
  | blanks blank => nofun
  | word blank filled solid ends goesOn ih => exact List.forall_mem_cons.2 ⟨⟨filled, solid⟩, ih⟩

theorem flatten_eq (parted : Parted text words) : words.flatten = text.filter (!·.isBlank) := by
  induction parted with
  | @blanks gap blank =>
    have nothing : gap.filter (!·.isBlank) = [] :=
      List.filter_eq_nil_iff.2 fun glyph member => by simp [blank glyph member]
    rw [nothing, List.flatten_nil]
  | @word gap word rest others blank filled solid ends goesOn ih =>
    have nothing : gap.filter (!·.isBlank) = [] :=
      List.filter_eq_nil_iff.2 fun glyph member => by simp [blank glyph member]
    have all : word.filter (!·.isBlank) = word :=
      List.filter_eq_self.2 fun glyph member => by simp [solid glyph member]
    rw [List.flatten_cons, ih, List.filter_append, List.filter_append, nothing, all,
      List.nil_append]

theorem eq_nil_iff (parted : Parted text words) :
    words = [] ↔ ∀ glyph ∈ text, glyph.isBlank = true := by
  cases parted with
  | blanks blank => exact ⟨fun _ => blank, fun _ => rfl⟩
  | @word gap word rest others blank filled solid ends goesOn =>
    refine ⟨nofun, fun all => ?_⟩
    obtain ⟨glyph, member⟩ := List.exists_mem_of_ne_nil word filled
    have clash := all glyph (List.mem_append_left rest (List.mem_append_right gap member))
    rw [solid glyph member] at clash
    cases clash

end Parted

theorem parted_words (text : Text) : Parted text text.words := by
  induction text with
  | nil => exact .blanks nofun
  | cons glyph rest ih =>
    unfold words
    split
    next blank => exact ih.cons_blank blank
    next unblank =>
      have solid : glyph.isBlank = false := Bool.eq_false_iff.2 unblank
      -- The word of the next glyph is taken up, unless this is a blank.
      split
      next next behind word others told =>
        rw [told] at ih
        by_cases blank : next.isBlank
        · rw [if_pos blank]
          exact ih.cons_alone solid fun other first => Option.some.inj first ▸ blank
        · rw [if_neg blank]
          exact ih.cons_joined solid fun other first =>
            Option.some.inj first ▸ Bool.eq_false_iff.2 blank
      next rest _ _ unfound =>
        have ends : ∀ next, rest.head? = some next → next.isBlank = true := by
          intro next first
          obtain ⟨behind, rfl⟩ := List.head?_eq_some_iff.1 first
          cases told : words (next :: behind) with
          | nil => exact (ih.eq_nil_iff.1 told) next List.mem_cons_self
          | cons word others => exact (unfound next behind word others rfl told).elim
        exact ih.cons_alone solid ends

end GenWalk.Text
