import GenWalk.Machine.Lookup
import GenWalk.Proofs.Traversal.Place

/-!
Paths as a machine reads them off their texts. A path of entry names is read back from its text as it
is (`Path.ofText_toText`), and what a machine reads besides are single dots, which lead nowhere.
-/

namespace GenWalk

theorem Text.splitOn_eq (separator : Glyph) (text : Text) :
    splitOn separator text = List.splitOn separator text := by
  induction text with
  | nil => rfl
  | cons glyph rest ih =>
    rw [List.splitOn, List.splitOnP_cons_eq_if_modifyHead, splitOn, ih, List.splitOn]
    simp only [beq_iff_eq]
    split
    next => rfl
    next =>
      split
      next none => exact absurd none (List.splitOnP_ne_nil _ _)
      next part parts some => rw [some, List.modifyHead_cons]

theorem Text.splitOn_join {separator : Glyph} {parts : List Text} (some : parts ≠ [])
    (clear : ∀ part ∈ parts, separator ∉ part) :
    splitOn separator (join [separator] parts) = parts := by
  rw [splitOn_eq]
  exact List.splitOn_intercalate separator clear some

namespace Path

theorem parts_ofText_anchored (anchor : Anchor) (text : Text) :
    (ofText (anchor.text ++ text)).parts = (ofText text).parts := by
  cases anchor with
  | relative => rfl
  | root => simp [ofText, Anchor.text, Text.splitOn]
  | doubleRoot => simp [ofText, Anchor.text, Text.splitOn]

theorem parts_ofText_join {parts : List Text} (named : IsPlace parts) :
    (ofText (Text.join [slash] parts)).parts = parts := by
  rcases List.eq_nil_or_concat parts with rfl | ⟨upper, last, same⟩
  · decide
  · have some : parts ≠ [] := by simp [same]
    simp only [ofText]
    rw [Text.splitOn_join some fun part member => (named part member).2.2.2, List.filter_eq_self]
    intro part member
    obtain ⟨filled, single, _⟩ := named part member
    simp [filled, single]

theorem anchorOf_join {parts : List Text} (named : IsPlace parts) (anchor : Anchor) :
    anchorOf (anchor.text ++ Text.join [slash] parts) = anchor := by
  have unslashed : (Text.join [slash] parts).takeWhile (· == slash) = [] := by
    cases parts with
    | nil => rfl
    | cons part rest =>
      obtain ⟨filled, _, _, clear⟩ := named part List.mem_cons_self
      cases part with
      | nil => exact absurd rfl filled
      | cons glyph others =>
        have other : glyph ≠ slash := fun same => clear (same ▸ List.mem_cons_self)
        cases rest with
        | nil => simp [Text.join, other]
        | cons next later => simp [Text.join, List.intercalate, other]
  cases anchor with
  | relative => simp [anchorOf, Anchor.text, unslashed]
  | root => simp [anchorOf, Anchor.text, unslashed]
  | doubleRoot => simp [anchorOf, Anchor.text, unslashed]

theorem ofText_toText {path : Path} (named : IsPlace path.parts) : ofText path.toText = path := by
  unfold toText
  split
  next bare =>
    simp only [Bool.and_eq_true, decide_eq_true_eq, List.isEmpty_iff] at bare
    obtain ⟨anchor, parts⟩ := path
    obtain ⟨rfl, rfl⟩ := bare
    decide
  next =>
    obtain ⟨anchor, parts⟩ := path
    have anchored := anchorOf_join named anchor
    have read := (parts_ofText_anchored anchor _).trans (parts_ofText_join named)
    simp only [ofText] at read ⊢
    rw [anchored, read]

end Path

namespace Lookup

/-- The names of a path without the single dots in it. -/
def undotted (names : List Text) : List Text := names.filter (· ≠ dot)

theorem undotted_literal (text : Text) :
    undotted (Path.literal text).parts = (Path.ofText text).parts := by
  have read : (Path.ofText text).parts =
      undotted ((Text.splitOn slash text).filter (· ≠ [])) := by
    rw [undotted, List.filter_filter]
    refine List.filter_congr fun part _ => ?_
    rw [Bool.and_comm]
    simp only [ne_eq, decide_not]
    rfl
  rw [read, Path.literal]
  split
  next => simp [undotted, dot]
  next => rfl

theorem isAbsolute_iff (text : Text) :
    isAbsolute text = true ↔ (Path.ofText text).anchor ≠ .relative := by
  simp only [Path.ofText, Path.anchorOf, isAbsolute]
  cases text with
  | nil => decide
  | cons glyph rest =>
    by_cases same : glyph = slash
    · subst same
      simp only [List.head?_cons, beq_self_eq_true, List.takeWhile_cons_of_pos, List.length_cons,
        true_iff]
      split
      next none => cases none
      next => decide
      next => decide
    · simp [same]

end Lookup

end GenWalk
