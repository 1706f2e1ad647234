import GenWalk.Traversal
import Mathlib.Data.List.Lex

/-!
Places below a root: the names that lead there. Places are ordered name by name, and names by their
code points.
-/

namespace GenWalk

namespace Path

def descend (root : Path) (place : List Text) : Path :=
  { root with parts := root.parts ++ place }

@[simp] theorem descend_nil (root : Path) : root.descend [] = root := by
  simp [descend]

theorem descend_child (root : Path) (name : Text) (lower : List Text) :
    (root.child name).descend lower = root.descend (name :: lower) := by
  simp [descend, child]

theorem descend_concat (root : Path) (upper : List Text) (name : Text) :
    root.descend (upper ++ [name]) = (root.descend upper).child name := by
  simp [descend, child]

theorem descend_injective (root : Path) : Function.Injective root.descend := by
  intro first second same
  have parts := congrArg Path.parts same
  exact List.append_cancel_left parts

theorem child_inj {directory directory' : Path} {name name' : Text} :
    directory.child name = directory'.child name' ↔ directory = directory' ∧ name = name' := by
  cases directory
  cases directory'
  simp [child, and_assoc]

theorem child_ne_self {directory : Path} {name : Text} : directory.child name ≠ directory := by
  intro same
  have lengths := congrArg (fun path : Path => path.parts.length) same
  simp [child] at lengths

@[simp] theorem name_child (directory : Path) (name : Text) : (directory.child name).name = name := by
  simp [Path.name, child]

end Path

/-- Names that an entry of a directory can have. The two dots and the single one stand for
directories, but no listing holds them. -/
def IsEntryName (name : Text) : Prop :=
  name ≠ [] ∧ name ≠ Text.ofString "." ∧ name ≠ Text.ofString ".." ∧ slash ∉ name

instance : DecidablePred IsEntryName := fun name =>
  inferInstanceAs (Decidable (name ≠ [] ∧ name ≠ Text.ofString "." ∧ name ≠ Text.ofString ".." ∧
    slash ∉ name))

def IsPlace (place : List Text) : Prop := ∀ name ∈ place, IsEntryName name

/-- The order of places: the first name that differs decides, and in it the first code point. -/
def Precedes (first second : List Text) : Prop :=
  first.map Text.codePoints < second.map Text.codePoints

theorem Precedes.cons {first second : List Text} (name : Text) (earlier : Precedes first second) :
    Precedes (name :: first) (name :: second) := by
  simp only [Precedes, List.map_cons, List.cons_lt_cons_iff]
  exact Or.inr ⟨trivial, earlier⟩

theorem Precedes.of_head {first second : Text} (lower lower' : List Text)
    (earlier : first.codePoints < second.codePoints) :
    Precedes (first :: lower) (second :: lower') := by
  simp only [Precedes, List.map_cons, List.cons_lt_cons_iff]
  exact Or.inl earlier

theorem Precedes.ne {first second : List Text} (earlier : Precedes first second) :
    first ≠ second := by
  intro same
  subst same
  exact absurd earlier (List.lt_irrefl _)

namespace Text

theorem notAfter_iff (first second : Text) :
    notAfter first second = true ↔ first.codePoints ≤ second.codePoints := by
  simp [notAfter]

theorem pairwise_sorted (texts : List Text) :
    (sorted texts).Pairwise fun first second => first.codePoints ≤ second.codePoints := by
  have ordered : (sorted texts).Pairwise fun first second => notAfter first second = true :=
    List.pairwise_mergeSort
      (fun first second third => by simp only [notAfter_iff]; exact le_trans)
      (fun first second => by simp only [Bool.or_eq_true, notAfter_iff]; exact le_total _ _) texts
  simpa only [notAfter_iff] using ordered

@[simp] theorem mem_sorted (text : Text) (texts : List Text) : text ∈ sorted texts ↔ text ∈ texts :=
  List.mem_mergeSort

theorem strict_sorted {texts : List Text} (distinct : (texts.map codePoints).Nodup) :
    (sorted texts).Pairwise fun first second => first.codePoints < second.codePoints := by
  have permuted : ((sorted texts).map codePoints).Perm (texts.map codePoints) :=
    (List.mergeSort_perm texts notAfter).map codePoints
  have different : (sorted texts).Pairwise fun first second => first.codePoints ≠ second.codePoints :=
    List.pairwise_map.1 (permuted.nodup_iff.2 distinct)
  exact ((pairwise_sorted texts).and different).imp fun both => lt_of_le_of_ne both.1 both.2

end Text

theorem split_concat {upper before lower : List Text} {last name : Text}
    (split : upper ++ [last] = before ++ name :: lower) :
    (before = upper ∧ name = last) ∨ ∃ rest, upper = before ++ name :: rest := by
  rcases List.eq_nil_or_concat lower with rfl | ⟨rest, final, rfl⟩
  · obtain ⟨same, single⟩ := List.append_inj' split rfl
    exact Or.inl ⟨same.symm, (List.head_eq_of_cons_eq single).symm⟩
  · refine Or.inr ⟨rest, ?_⟩
    have regrouped : upper ++ [last] = (before ++ name :: rest) ++ [final] := by simpa using split
    exact (List.append_inj' regrouped rfl).1

def Skipped (prefixes : List Text) (name : Text) : Prop := ∃ start ∈ prefixes, start <+: name

/-- The rule for directories speaks of those strictly below the root and strictly above the place.
-/
def Unskipped (prefixes : List Text) (place : List Text) : Prop :=
  ∀ name ∈ place.dropLast, ¬Skipped prefixes name

theorem visit_child (prefixes : List Text) (directory : Path) (name : Text) :
    Visit.of prefixes (directory.child name) = .skip ↔ Skipped prefixes name := by
  simp [Visit.of, Skipped, Text.startsWith]

theorem not_skipped_of_enter {prefixes : List Text} {directory : Path} {name : Text}
    (enters : Visit.of prefixes (directory.child name) = .enter) : ¬Skipped prefixes name := by
  rw [← visit_child prefixes directory, enters]
  decide

theorem Unskipped.tail {prefixes : List Text} {name : Text} {lower : List Text}
    (unskipped : Unskipped prefixes (name :: lower)) : Unskipped prefixes lower := by
  cases lower with
  | nil => intro other member; simp at member
  | cons next rest =>
    intro other member
    exact unskipped other (List.mem_cons_of_mem name member)

theorem Unskipped.head {prefixes : List Text} {name : Text} {lower : List Text}
    (unskipped : Unskipped prefixes (name :: lower)) (deeper : lower ≠ []) :
    ¬Skipped prefixes name := by
  apply unskipped
  rw [List.dropLast_cons_of_ne_nil deeper]
  exact List.mem_cons_self

theorem Unskipped.cons {prefixes : List Text} {name : Text} {lower : List Text}
    (first : lower ≠ [] → ¬Skipped prefixes name) (rest : Unskipped prefixes lower) :
    Unskipped prefixes (name :: lower) := by
  intro other member
  by_cases deeper : lower = []
  · subst deeper
    simp at member
  · rw [List.dropLast_cons_of_ne_nil deeper, List.mem_cons] at member
    rcases member with rfl | later
    · exact first deeper
    · exact rest other later

namespace Utf8

theorem length_le_encode (text : Text) : text.length ≤ (encode text).length := by
  induction text with
  | nil => exact Nat.zero_le 0
  | cons glyph rest ih =>
    have positive : 0 < (encodeGlyph glyph).length := by
      cases glyph with
      | char value => unfold encodeGlyph encodeChar encodePoint; grind
      | stray value => exact Nat.one_pos
      | half value => unfold encodeGlyph encodePoint; grind
    have split : (encode (glyph :: rest)).length =
        (encodeGlyph glyph).length + (encode rest).length := by simp [encode]
    simp only [List.length_cons]
    omega

end Utf8

theorem Text.length_le_join (parts : List Text) (separator : Text) :
    (parts.filter fun part => !part.isEmpty).length ≤ (Text.join separator parts).length := by
  induction parts with
  | nil => exact Nat.zero_le _
  | cons part rest ih =>
    have first : (([part] : List Text).filter fun part => !part.isEmpty).length ≤ part.length := by
      cases part with
      | nil => exact Nat.zero_le _
      | cons glyph others => simp
    have split : ((part :: rest).filter fun part => !part.isEmpty).length =
        (([part] : List Text).filter fun part => !part.isEmpty).length +
          (rest.filter fun part => !part.isEmpty).length := by
      rw [← List.length_append, ← List.filter_append, List.singleton_append]
    have joined : part.length + (Text.join separator rest).length ≤
        (Text.join separator (part :: rest)).length := by
      cases rest with
      | nil => simp [Text.join]
      | cons next others => simp [Text.join, List.intercalate]
    omega

theorem Path.length_le_descend (root : Path) {place : List Text} (named : ∀ name ∈ place, name ≠ []) :
    place.length ≤ (Utf8.encode (root.descend place).toText).length := by
  refine le_trans ?_ (Utf8.length_le_encode _)
  have kept : place.filter (fun part => !part.isEmpty) = place := by
    rw [List.filter_eq_self]
    intro name member
    simpa using named name member
  have joined := Text.length_le_join (root.parts ++ place) [slash]
  rw [List.filter_append, List.length_append, kept] at joined
  unfold Path.toText
  split
  next bare =>
    simp only [Path.descend, Bool.and_eq_true, List.isEmpty_iff, List.append_eq_nil_iff] at bare
    rw [bare.2.2]
    exact Nat.zero_le _
  next =>
    simp only [Path.descend, List.length_append]
    omega

end GenWalk
