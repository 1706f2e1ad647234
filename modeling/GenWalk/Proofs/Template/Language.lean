import GenWalk.Template
import Mathlib.Data.Char
import Mathlib.Data.List.TakeWhile
import Mathlib.Tactic.IntervalCases

/-!
The language of references. `Segment.Stands` says where each kind of segment may stand, without
saying how it is found; the main statement `expand_follows_language` says that every template splits
in exactly one way into segments that stand where they may, and that an expansion puts together what
these stand for.
-/

namespace GenWalk.Template

def NamesItself (glyph : Glyph) : Prop :=
  ∃ character : Char, glyph = .char character ∧
    (character ∈ ['*', '#', '$', '@', '!', '?', '-'] ∨ character.isDigit)

def BeginsName (glyph : Glyph) : Prop :=
  ∃ character : Char, glyph = .char character ∧ (character.isAlpha ∨ character = '_')

def ContinuesName (glyph : Glyph) : Prop :=
  ∃ character : Char, glyph = .char character ∧
    (character.isAlpha ∨ character.isDigit ∨ character = '_')

/-- The segment may stand before the rest of a template. -/
inductive Segment.Stands : Segment → (rest : Text) → Prop where
  | braced {name rest : Text} (inside : .char '}' ∉ name) : Stands (.braced name) rest
  | unclosed {rest : Text} (nowhere : .char '}' ∉ rest) : Stands .unclosed rest
  | special {name : Char} {rest : Text} (itself : NamesItself (.char name)) :
      Stands (.special name) rest
  | named {first : Glyph} {others rest : Text} (begins : BeginsName first)
      (continues : ∀ glyph ∈ others, ContinuesName glyph)
      (longest : ∀ next, rest.head? = some next → ¬ContinuesName next) :
      Stands (.named (first :: others)) rest
  | literal {glyph : Glyph} {rest : Text}
      (plain : glyph = dollar → ∀ next, rest.head? = some next →
        next ≠ .char '{' ∧ ¬NamesItself next ∧ ¬BeginsName next) :
      Stands (.literal glyph) rest

/-- The template is made of the segments, in order, and each may stand where it stands. -/
inductive Split : (template : Text) → List Segment → Prop where
  | done : Split [] []
  | segment {segment : Segment} {rest : Text} {segments : List Segment}
      (stands : segment.Stands rest) (goesOn : Split rest segments) :
      Split (segment.source ++ rest) (segment :: segments)

theorem isDigit_iff_mem (character : Char) :
    character.isDigit ↔ character ∈ "0123456789".toList := by
  constructor
  · intro digit
    simp only [Char.isDigit, ge_iff_le, Bool.and_eq_true, decide_eq_true_eq] at digit
    have low : 48 ≤ character.toNat := digit.1
    have high : character.toNat ≤ 57 := digit.2
    rw [← Char.ofNat_toNat character]
    interval_cases character.toNat <;> decide
  · intro member
    have all : "0123456789".toList.all Char.isDigit := by decide
    exact List.all_eq_true.1 all character member

theorem isSpecial_iff (character : Char) :
    isSpecial character ↔ NamesItself (.char character) := by
  have split : "*#$@!?-0123456789".toList =
      ['*', '#', '$', '@', '!', '?', '-'] ++ "0123456789".toList := by decide
  simp only [isSpecial, NamesItself, List.contains_iff_mem, split, List.mem_append,
    ← isDigit_iff_mem, Glyph.char.injEq, exists_eq_left']

theorem isNameStart_iff (character : Char) :
    isNameStart character ↔ BeginsName (.char character) := by
  simp [isNameStart, BeginsName]

theorem satisfies_isNamePart_iff (glyph : Glyph) :
    glyph.satisfies isNamePart ↔ ContinuesName glyph := by
  cases glyph with
  | char character => simp [Glyph.satisfies, isNamePart, ContinuesName, Char.isAlphanum, or_assoc]
  | stray byte => simp [Glyph.satisfies, ContinuesName]
  | half point => simp [Glyph.satisfies, ContinuesName]

theorem not_isSpecial_of_isNameStart {character : Char} (begins : isNameStart character) :
    isSpecial character = false := by
  have apart : "*#$@!?-0123456789".toList.all fun other => !isNameStart other := by decide
  rw [Bool.eq_false_iff]
  intro special
  have clash := List.all_eq_true.1 apart character (List.contains_iff_mem.1 special)
  rw [begins] at clash
  cases clash

theorem takeWhile_closed {name : Text} (inside : .char '}' ∉ name) (rest : Text) :
    (name ++ .char '}' :: rest).takeWhile (· ≠ .char '}') = name := by
  have passes : ∀ glyph ∈ name, decide (glyph ≠ .char '}') = true := by
    intro glyph member
    exact decide_eq_true fun same => inside (same ▸ member)
  rw [List.takeWhile_append_of_pos passes]
  simp

theorem referenceAt?_braced {name : Text} (inside : .char '}' ∉ name) (rest : Text) :
    referenceAt? (.char '{' :: (name ++ .char '}' :: rest)) = some (.braced name) := by
  have closed : (name ++ .char '}' :: rest).contains (.char '}') = true := by simp
  simp only [referenceAt?, closed, if_true, takeWhile_closed inside]

theorem referenceAt?_unclosed {rest : Text} (nowhere : .char '}' ∉ rest) :
    referenceAt? (.char '{' :: rest) = some .unclosed := by
  simp [referenceAt?, nowhere]

theorem referenceAt?_special {name : Char} (itself : NamesItself (.char name)) (rest : Text) :
    referenceAt? (.char name :: rest) = some (.special name) := by
  have special := (isSpecial_iff name).2 itself
  have unbraced : name ≠ '{' := by
    rintro rfl
    revert special
    decide
  simp [referenceAt?, special]

theorem referenceAt?_named {first : Glyph} {others rest : Text} (begins : BeginsName first)
    (continues : ∀ glyph ∈ others, ContinuesName glyph)
    (longest : ∀ next, rest.head? = some next → ¬ContinuesName next) :
    referenceAt? (first :: (others ++ rest)) = some (.named (first :: others)) := by
  obtain ⟨character, rfl, _⟩ := id begins
  have start := (isNameStart_iff character).2 begins
  have unspecial := not_isSpecial_of_isNameStart start
  have unbraced : character ≠ '{' := by
    rintro rfl
    revert start
    decide
  have passes : ∀ glyph ∈ others, glyph.satisfies isNamePart = true := fun glyph member =>
    (satisfies_isNamePart_iff glyph).2 (continues glyph member)
  have stops : rest.takeWhile (·.satisfies isNamePart) = [] := by
    cases rest with
    | nil => rfl
    | cons next later =>
      have ends : ¬next.satisfies isNamePart := fun part =>
        longest next rfl ((satisfies_isNamePart_iff next).1 part)
      exact List.takeWhile_cons_of_neg ends
  simp [referenceAt?, start, unspecial, List.takeWhile_append_of_pos passes, stops]

theorem referenceAt?_eq_none_iff (text : Text) :
    referenceAt? text = none ↔ ∀ next, text.head? = some next →
      next ≠ .char '{' ∧ ¬NamesItself next ∧ ¬BeginsName next := by
  rcases text with _ | ⟨character | byte | point, rest⟩
  · simp [referenceAt?]
  · by_cases brace : character = '{'
    · subst brace
      simp [referenceAt?]
    · simp only [referenceAt?, List.head?_cons, Option.some.injEq, forall_eq', ne_eq, brace,
        Glyph.char.injEq, not_false_eq_true, true_and, ← isSpecial_iff, ← isNameStart_iff]
      split_ifs with special start <;> simp [*]
  · simp [referenceAt?, NamesItself, BeginsName]
  · simp [referenceAt?, NamesItself, BeginsName]

theorem stands_of_referenceAt? {text : Text} {reference : Segment}
    (found : referenceAt? text = some reference) :
    ∃ rest, dollar :: text = reference.source ++ rest ∧ reference.Stands rest := by
  unfold referenceAt? at found
  split at found
  next behind =>
    split at found
    next closed =>
      obtain ⟨name, rest, rfl, inside⟩ :=
        List.eq_append_cons_of_mem (List.contains_iff_mem.1 closed)
      rw [takeWhile_closed inside] at found
      obtain rfl := Option.some.inj found
      exact ⟨rest, by simp [Segment.source], .braced inside⟩
    next unclosed =>
      obtain rfl := Option.some.inj found
      exact ⟨behind, rfl, .unclosed (mt List.contains_iff_mem.2 unclosed)⟩
  next character behind _ =>
    split at found
    next special =>
      obtain rfl := Option.some.inj found
      exact ⟨behind, rfl, .special ((isSpecial_iff character).1 special)⟩
    next =>
      split at found
      next start =>
        obtain rfl := Option.some.inj found
        refine ⟨behind.dropWhile (·.satisfies isNamePart), by simp [Segment.source],
          .named ((isNameStart_iff character).1 start) (fun glyph member => ?_)
            fun next first => ?_⟩
        · exact (satisfies_isNamePart_iff glyph).1 (List.mem_takeWhile_imp member)
        · rw [← List.find?_not_eq_head?_dropWhile] at first
          have ends := List.find?_some first
          rw [← satisfies_isNamePart_iff]
          simpa using ends
      next => cases found
  next => cases found

theorem Segment.source_ne_nil (segment : Segment) : segment.source ≠ [] := by
  cases segment <;> exact List.cons_ne_nil _ _

theorem segments_of_referenceAt? {text rest : Text} {reference : Segment}
    (found : referenceAt? text = some reference)
    (written : dollar :: text = reference.source ++ rest) :
    segments (dollar :: text) = reference :: segments rest := by
  obtain ⟨first, others, source⟩ := List.exists_cons_of_ne_nil reference.source_ne_nil
  rw [source] at written
  obtain rfl : text = others ++ rest := (List.cons.inj written).2
  have covered : (others ++ rest).drop (reference.source.length - 1) = rest := by
    rw [source, List.length_cons, Nat.add_sub_cancel, List.drop_left]
  simp only [segments, scan_cons, step, if_true, found, covered]

theorem segments_of_plain {glyph : Glyph} {rest : Text}
    (plain : glyph = dollar → referenceAt? rest = none) :
    segments (glyph :: rest) = .literal glyph :: segments rest := by
  have nothing : (if glyph = dollar then referenceAt? rest else none) = none := by
    split
    next same => exact plain same
    next => rfl
  simp only [segments, scan_cons, step, nothing, List.drop_zero]

theorem segments_append {segment : Segment} {rest : Text} (stands : segment.Stands rest) :
    segments (segment.source ++ rest) = segment :: segments rest := by
  cases stands with
  | @braced name _ inside =>
    have written : (Segment.braced name).source ++ rest =
        dollar :: .char '{' :: (name ++ .char '}' :: rest) := by simp [Segment.source]
    rw [written]
    exact segments_of_referenceAt? (referenceAt?_braced inside rest) written.symm
  | unclosed nowhere => exact segments_of_referenceAt? (referenceAt?_unclosed nowhere) rfl
  | special itself => exact segments_of_referenceAt? (referenceAt?_special itself rest) rfl
  | named begins continues longest =>
    exact segments_of_referenceAt? (referenceAt?_named begins continues longest) rfl
  | literal plain =>
    exact segments_of_plain fun same => (referenceAt?_eq_none_iff rest).2 (plain same)

theorem exists_stands (glyph : Glyph) (after : Text) :
    ∃ (segment : Segment) (rest : Text),
      glyph :: after = segment.source ++ rest ∧ segment.Stands rest := by
  by_cases same : glyph = dollar
  · subst same
    cases found : referenceAt? after with
    | some reference =>
      obtain ⟨rest, written, stands⟩ := stands_of_referenceAt? found
      exact ⟨reference, rest, written, stands⟩
    | none =>
      have plain := (referenceAt?_eq_none_iff after).1 found
      exact ⟨.literal dollar, after, rfl, .literal fun _ => plain⟩
  · exact ⟨.literal glyph, after, rfl, .literal fun dollared => absurd dollared same⟩

theorem split_segments (template : Text) : Split template (segments template) := by
  -- A segment may be many glyphs long, so the induction is on the length and not on the list.
  induction length : template.length using Nat.strongRecOn generalizing template with
  | ind size ih =>
    cases template with
    | nil => exact .done
    | cons glyph after =>
      obtain ⟨segment, rest, written, stands⟩ := exists_stands glyph after
      have shorter : rest.length < size := by
        have lengths := congrArg List.length written
        have positive := List.length_pos_iff.2 segment.source_ne_nil
        rw [List.length_append] at lengths
        omega
      rw [written, segments_append stands]
      exact .segment stands (ih rest.length shorter rest rfl)

theorem Split.eq_segments {template : Text} {split : List Segment} (splits : Split template split) :
    split = segments template := by
  induction splits with
  | done => rfl
  | segment stands _ ih => rw [segments_append stands, ← ih]

/-- Every template splits in exactly one way, and its expansion puts the values of the segments
together. -/
theorem expand_follows_language (template : Text) :
    ∃ split, Split template split ∧ (∀ other, Split template other → other = split) ∧
      ∀ environment, expand template environment = split.flatMap fun segment => match segment with
        | .braced name | .named name => (environment.get? name).getD []
        | .special name => (environment.get? [.char name]).getD []
        | .unclosed => []
        | .literal glyph => [glyph] := by
  refine ⟨segments template, split_segments template, fun _ splits => splits.eq_segments,
    fun environment => ?_⟩
  unfold expand
  congr 1
  funext segment
  cases segment <;> rfl

/-- What stands between an opening brace and the first closing one is a name, dollars included. -/
example : segments "$$a$\x7bb$\x7bc\x7d1$\x7b-" = [.special '$', .literal (.char 'a'),
    .braced "b$\x7bc", .literal (.char '1'), .unclosed, .literal (.char '-')] := by decide

end GenWalk.Template
