import GenWalk.Proofs.Template.Language

/-!
Templates that are put together. A template is split without a look at what comes after it, unless
its last segment may go on there; where that one may stand before what comes, the two parts are
expanded each by itself (`expand_concat`).
-/

namespace GenWalk.Template

variable {segment : Segment} {rest more : Text}

theorem Segment.Stands.append (stands : segment.Stands rest) (closed : segment ≠ .unclosed)
    (joins : rest = [] → segment.Stands more) : segment.Stands (rest ++ more) := by
  cases rest with
  | nil => exact joins rfl
  | cons next others =>
    -- The glyph behind the segment is the same as before, and the rest does not count.
    cases stands with
    | braced inside => exact .braced inside
    | unclosed nowhere => exact absurd rfl closed
    | special itself => exact .special itself
    | named begins continues longest => exact .named begins continues longest
    | literal plain => exact .literal plain

theorem Split.append {before after : Text} {first second : List Segment}
    (splits : Split before first) (closed : .unclosed ∉ first)
    (joins : ∀ last, first.getLast? = some last → last.Stands after)
    (goesOn : Split after second) : Split (before ++ after) (first ++ second) := by
  induction splits with
  | done => exact goesOn
  | @segment segment rest others stands later ih =>
    obtain ⟨here, elsewhere⟩ := not_or.1 (mt List.mem_cons.2 closed)
    have behind : Split (rest ++ after) (others ++ second) := by
      refine ih elsewhere fun last ending => joins last ?_
      rw [List.getLast?_cons, ending]
      rfl
    have stays : segment.Stands (rest ++ after) := by
      refine stands.append (Ne.symm here) fun nothing => joins segment ?_
      subst nothing
      rw [later.eq_segments]
      rfl
    rw [List.append_assoc, List.cons_append]
    exact .segment stays behind

theorem Split.stands_last {template : Text} {split : List Segment} {last : Segment}
    (splits : Split template split) (ending : split.getLast? = some last) : last.Stands [] := by
  induction splits with
  | done => cases ending
  | @segment segment rest others stands goesOn ih =>
    cases goesOn with
    | done =>
      obtain rfl := Option.some.inj ending
      exact stands
    | segment next later =>
      rw [List.getLast?_cons_cons] at ending
      exact ih ending

/-- A template that ends with all its references complete is expanded as if nothing came behind it:
no opening brace is left open, no dollar is kept at the end, and no name goes on in what follows. -/
theorem expand_concat (before after : Text) (closed : .unclosed ∉ segments before)
    (undollared : (segments before).getLast? ≠ some (.literal dollar))
    (ended : ∀ name, (segments before).getLast? = some (.named name) →
      ∀ next, after.head? = some next → ¬ContinuesName next)
    (environment : Environment) :
    expand (before ++ after) environment =
      expand before environment ++ expand after environment := by
  have joins : ∀ last, (segments before).getLast? = some last → last.Stands after := by
    intro last ending
    have alone : last.Stands [] := (split_segments before).stands_last ending
    cases alone with
    | braced inside => exact .braced inside
    | unclosed nowhere => exact absurd (List.mem_of_getLast? ending) closed
    | special itself => exact .special itself
    | named begins continues longest => exact .named begins continues (ended _ ending)
    | literal plain => exact .literal fun same => absurd (same ▸ ending) undollared
  have splits := (split_segments before).append closed joins (split_segments after)
  unfold expand
  rw [← splits.eq_segments, List.flatMap_append]

def oneValue : Environment where
  entries := [("A", "v")]
  distinct := by decide

theorem name_concat :
    .unclosed ∉ segments "$$$\x7bA\x7d$%$A" ∧
      (segments "$$$\x7bA\x7d$%$A").getLast? ≠ some (.literal dollar) ∧
      (∀ name, (segments "$$$\x7bA\x7d$%$A").getLast? = some (.named name) →
        ∀ next, ("$A$\x7bA" : Text).head? = some next → ¬ContinuesName next) ∧
      expand ("$$$\x7bA\x7d$%$A" ++ "$A$\x7bA") oneValue = "v$%v" ++ "vA" := by
  have closed : .unclosed ∉ segments "$$$\x7bA\x7d$%$A" := by decide
  have undollared : (segments "$$$\x7bA\x7d$%$A").getLast? ≠ some (.literal dollar) := by decide
  have stops : ¬ContinuesName dollar := by
    rw [← satisfies_isNamePart_iff]
    decide
  have ended : ∀ name, (segments "$$$\x7bA\x7d$%$A").getLast? = some (.named name) →
      ∀ next, ("$A$\x7bA" : Text).head? = some next → ¬ContinuesName next := by
    rintro _ _ next first
    obtain rfl : dollar = next := Option.some.inj first
    exact stops
  refine ⟨closed, undollared, ended, ?_⟩
  rw [expand_concat _ _ closed undollared ended]
  decide

/-- An open brace, a dollar and a name reach into what comes behind them. -/
example : ∀ parts ∈ ([("$\x7b", "A\x7d"), ("$", "A"), ("$A", "B")] : List (Text × Text)),
    expand (parts.1 ++ parts.2) oneValue ≠
      expand parts.1 oneValue ++ expand parts.2 oneValue := by
  decide

end GenWalk.Template
