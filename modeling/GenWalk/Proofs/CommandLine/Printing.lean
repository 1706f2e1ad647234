import GenWalk.CommandLine.Run
import GenWalk.Proofs.Text.Clean
import Mathlib.Data.List.TakeWhile

/-!
What can be put out. Colours and control sequences consist of characters, so that whether a print
can be put out depends on its text alone (`Print.isClean_shown`), and documents always can
(`Json.isClean_render`).
-/

namespace GenWalk

theorem Glyph.isChar_of_satisfies {glyph : Glyph} {property : Char → Bool}
    (holds : glyph.satisfies property = true) : glyph.isChar = true := by
  cases glyph with
  | char value => rfl
  | stray byte => cases holds
  | half point => cases holds

namespace Text

theorem isClean_takeWhile {property : Glyph → Bool}
    (chars : ∀ glyph, property glyph = true → glyph.isChar = true) (text : Text) :
    isClean (text.takeWhile property) = true :=
  List.all_eq_true.2 fun glyph member => chars glyph (List.mem_takeWhile_imp member)

@[simp] theorem isClean_hexadecimal (width number : Nat) :
    isClean (hexadecimal width number) = true := by
  have digits : isClean ((Nat.toDigits 16 number).map Glyph.char) = true := by
    rw [isClean, List.all_map]
    exact List.all_eq_true.2 fun _ _ => rfl
  simp [hexadecimal, digits]

theorem isClean_join {separator : Text} {texts : List Text} (clean : isClean separator = true)
    (all : ∀ text ∈ texts, isClean text = true) : isClean (join separator texts) = true := by
  induction texts with
  | nil => rfl
  | cons text rest ih =>
    have first := all text List.mem_cons_self
    have others := ih fun other member => all other (List.mem_cons_of_mem text member)
    cases rest with
    | nil => simpa [join, List.intercalate] using first
    | cons next rest =>
      simp only [join, List.intercalate, List.intersperse, List.flatten_cons, isClean_append,
        Bool.and_eq_true] at others ⊢
      exact ⟨first, clean, others⟩

end Text

theorem Glyph.isChar_of_codePoint_lt {glyph : Glyph} (small : glyph.codePoint < 0x80) :
    glyph.isChar = true := by
  cases glyph with
  | char value => rfl
  | stray byte =>
    simp only [Glyph.codePoint] at small
    omega
  | half point =>
    have high := point.isHalf
    simp only [isSurrogate, Bool.and_eq_true, decide_eq_true_eq] at high
    simp only [Glyph.codePoint] at small
    omega

namespace Json

theorem isClean_escapedGlyph (glyph : Glyph) : (escapedGlyph glyph).isClean = true := by
  have units (point : Nat) : (escapedPoint point).isClean = true := by
    unfold escapedPoint escapedUnit
    split <;> simp
  have ascii (inside : (0x20 ≤ glyph.codePoint && glyph.codePoint ≤ 0x7E) = true) :
      Text.isClean [glyph] = true := by
    simp only [Bool.and_eq_true, decide_eq_true_eq] at inside
    have char : glyph.isChar = true := Glyph.isChar_of_codePoint_lt (by omega)
    simp [char]
  simp only [escapedGlyph]
  split_ifs
  all_goals first | exact Text.isClean_ofString _ | exact units _ | exact ascii (by assumption)

theorem isClean_renderedText (value : Text) : (renderedText value).isClean = true := by
  have escaped : Text.isClean (value.flatMap escapedGlyph) = true := by
    rw [Text.isClean, List.all_flatMap]
    exact List.all_eq_true.2 fun glyph _ => isClean_escapedGlyph glyph
  simp [renderedText, escaped]

theorem isClean_bracketed (level : Nat) (opening closing : Char) {parts : List Text}
    (clean : ∀ part ∈ parts, part.isClean = true) :
    (bracketed level opening closing parts).isClean = true := by
  have indented (level : Nat) : (indent level).isClean = true := by simp [indent]
  cases parts with
  | nil => rfl
  | cons part rest =>
    have joined : (Text.join (.char ',' :: indent (level + 1)) (part :: rest)).isClean = true :=
      Text.isClean_join (by simp [indented]) clean
    simp [bracketed, indented, joined]

mutual

theorem isClean_renderAt (level : Nat) : (document : Json) →
    (renderAt level document).isClean = true
  | .null => Text.isClean_ofString _
  | .boolean true => Text.isClean_ofString _
  | .boolean false => Text.isClean_ofString _
  | .integer value => Text.isClean_ofInt value
  | .text value => isClean_renderedText value
  | .list items => isClean_bracketed _ _ _ (isClean_renderItems (level + 1) items)
  | .object fields => isClean_bracketed _ _ _ (isClean_renderFields (level + 1) fields)

theorem isClean_renderItems (level : Nat) : (items : List Json) →
    ∀ part ∈ renderItems level items, part.isClean = true
  | [], _, member => absurd member List.not_mem_nil
  | item :: rest, part, member => by
    rcases List.mem_cons.1 member with rfl | later
    · exact isClean_renderAt level item
    · exact isClean_renderItems level rest part later

theorem isClean_renderFields (level : Nat) : (fields : List (Text × Json)) →
    ∀ part ∈ renderFields level fields, part.isClean = true
  | [], _, member => absurd member List.not_mem_nil
  | (name, value) :: rest, part, member => by
    rcases List.mem_cons.1 member with rfl | later
    · simp [isClean_renderedText, isClean_renderAt level value]
    · exact isClean_renderFields level rest part later

end

theorem isClean_render (document : Json) : document.render.isClean = true :=
  isClean_renderAt 0 document

end Json

namespace CommandLine

@[simp] theorem isClean_sequence (code : String) : (sequence code).isClean = true := by
  simp [sequence, escape]

namespace Print

theorem isChar_of_isBetween {first last : Char} {glyph : Glyph}
    (between : isBetween first last glyph = true) : glyph.isChar = true :=
  Glyph.isChar_of_satisfies between

theorem isClean_take_of_sequence {rest : Text} {length : Nat}
    (covered : sequenceLength? rest = some length) : Text.isClean (rest.take length) = true := by
  unfold sequenceLength? at covered
  split at covered
  next tail =>
    simp only [Option.ite_none_right_eq_some, Option.some.injEq] at covered
    obtain ⟨final, rfl⟩ := covered
    have begins (property : Glyph → Bool) (text : Text) :
        text.take (text.takeWhile property).length = text.takeWhile property :=
      (List.prefix_iff_eq_take.1 (List.takeWhile_prefix property)).symm
    have last (text : Text) (ends : text.head?.any (isBetween '@' '~') = true) :
        Text.isClean (text.take 1) = true := by
      cases text with
      | nil => rfl
      | cons glyph text => simp [isChar_of_isBetween ends]
    rw [List.take_succ_cons, List.take_add, List.take_add, begins, begins]
    simp [Text.isClean_takeWhile (fun _ => isChar_of_isBetween), last _ final]
  next => cases covered

theorem sequenceStep_cases (glyph : Glyph) (rest : Text) :
    sequenceStep glyph rest = ([glyph], 0) ∨
      glyph = escape ∧ ∃ length, sequenceLength? rest = some length ∧
        sequenceStep glyph rest = ([], length) := by
  unfold sequenceStep
  by_cases same : glyph = escape
  · rw [if_pos same]
    cases found : sequenceLength? rest with
    | none => exact Or.inl rfl
    | some length => exact Or.inr ⟨same, length, rfl, rfl⟩
  · exact Or.inl (if_neg same)

theorem isClean_scanAfter (covered : Nat) {text : Text}
    (clean : Text.isClean (text.take covered) = true) :
    Text.isClean (scanAfter sequenceStep covered text).flatten = text.isClean := by
  induction text generalizing covered with
  | nil => cases covered <;> rfl
  | cons glyph rest ih =>
    cases covered with
    | succ covered =>
      rw [List.take_succ_cons, Text.isClean_cons, Bool.and_eq_true] at clean
      rw [scanAfter, ih covered clean.2, Text.isClean_cons, clean.1, Bool.true_and]
    | zero =>
      rw [scanAfter, List.flatten_cons, Text.isClean_append, Text.isClean_cons]
      rcases sequenceStep_cases glyph rest with stays | ⟨same, length, found, goes⟩
      · rw [stays, ih 0 rfl, Text.isClean_cons, Text.isClean_nil, Bool.and_true]
      · rw [goes, ih length (isClean_take_of_sequence found), same]
        rfl

theorem isClean_bare (text : Text) : (bare text).isClean = text.isClean :=
  isClean_scanAfter 0 rfl

/-- In colours or without, a print can be put out exactly if its text can. -/
theorem isClean_shown (colored : Bool) (print : Print) :
    (print.shown colored).isClean = print.text.isClean := by
  have styled : print.styledText.isClean = print.text.isClean := by
    unfold styledText
    split
    next =>
      cases print.color? <;> cases print.bold <;> simp
    next => rfl
  have ending : (if print.endsLine then [.char '\n'] else [] : Text).isClean = true := by
    cases print.endsLine <;> rfl
  unfold shown
  cases colored <;> simp [isClean_bare, styled, ending]

end Print

namespace Course

variable {World : Type}

theorem put_cons (colored : Bool) (print : Print) (rest : List Print) (world : World)
    (output : Text) :
    put colored (print :: rest) (world, output) =
      if print.text.isClean then put colored rest (world, output ++ print.shown colored)
      else .error (.crashed .unprintable) (world, output) := by
  simp only [put, List.forM, print.isClean_shown]
  cases print.text.isClean <;> rfl

theorem put_of_clean (colored : Bool) {prints : List Print}
    (clean : ∀ print ∈ prints, print.text.isClean = true) (world : World) (output : Text) :
    put colored prints (world, output) =
      .ok () (world, output ++ prints.flatMap (Print.shown colored)) := by
  induction prints generalizing output with
  | nil => simp [put, pure, EStateM.pure]
  | cons print rest ih =>
    rw [put_cons, if_pos (clean print List.mem_cons_self),
      ih fun other member => clean other (List.mem_cons_of_mem print member), List.flatMap_cons,
      List.append_assoc]

theorem put_of_unclean (colored : Bool) {prints : List Print}
    (unclean : ¬∀ print ∈ prints, print.text.isClean = true) (world : World) (output : Text) :
    ∃ shown, put colored prints (world, output) =
      .error (.crashed .unprintable) (world, output ++ shown) := by
  induction prints generalizing output with
  | nil => exact absurd (fun _ member => absurd member List.not_mem_nil) unclean
  | cons print rest ih =>
    rw [put_cons]
    by_cases first : print.text.isClean = true
    · rw [if_pos first]
      obtain ⟨shown, ended⟩ := ih (fun others => unclean (List.forall_mem_cons.2 ⟨first, others⟩))
        (output ++ print.shown colored)
      exact ⟨print.shown colored ++ shown, by rw [ended, List.append_assoc]⟩
    · rw [if_neg first]
      exact ⟨[], by rw [List.append_nil]⟩

end Course

end CommandLine

end GenWalk
