import GenWalk.Proofs.Template.Language
import GenWalk.Proofs.Template.Reference

/-!
Expansions that are settled. If no value that is put in holds a dollar, no reference is left and none
comes about where pieces are glued together: every glyph of the expansion stands for itself, so that
it is its own expansion in any environment (`expand_settled`).
-/

namespace GenWalk.Template

/-- Every glyph of the text stands for itself. -/
def Settled (text : Text) : Prop := segments text = text.map .literal

theorem expand_of_settled {text : Text} (settled : Settled text) (environment : Environment) :
    expand text environment = text := by
  unfold expand
  rw [settled, List.flatMap_map]
  exact List.flatMap_singleton' text

theorem settled_nil : Settled [] := rfl

theorem settled_cons {glyph : Glyph} {rest : Text} (stands : (Segment.literal glyph).Stands rest)
    (settled : Settled rest) : Settled (glyph :: rest) := by
  have first := segments_append stands
  rw [Settled, List.map_cons, ← settled]
  exact first

theorem settled_append {value rest : Text} (plain : dollar ∉ value) (settled : Settled rest) :
    Settled (value ++ rest) := by
  induction value with
  | nil => exact settled
  | cons glyph others ih =>
    obtain ⟨here, later⟩ := not_or.1 (mt List.mem_cons.2 plain)
    exact settled_cons (.literal fun same => absurd same.symm here) (ih later)

theorem Split.head?_values {template : Text} {split : List Segment} (splits : Split template split)
    (undollared : template.head? ≠ some dollar) (environment : Environment) :
    (split.flatMap (·.value environment)).head? = template.head? := by
  cases splits with
  | done => rfl
  | @segment segment rest others stands goesOn =>
    cases segment with
    | literal glyph => rfl
    | braced name => exact absurd rfl undollared
    | unclosed => exact absurd rfl undollared
    | special name => exact absurd rfl undollared
    | named name => exact absurd rfl undollared

theorem undollared_of_stands {rest : Text} (stands : (Segment.literal dollar).Stands rest) :
    rest.head? ≠ some dollar := by
  intro second
  cases stands with
  | literal plain =>
    have itself : NamesItself dollar := ⟨'$', rfl, Or.inl (by decide)⟩
    exact (plain rfl dollar second).2.1 itself

theorem Split.settled_values {template : Text} {split : List Segment}
    (splits : Split template split) {environment : Environment}
    (plain : ∀ segment ∈ split, ∀ name, segment.name? = some name →
      dollar ∉ (environment.get? name).getD []) :
    Settled (split.flatMap (·.value environment)) := by
  induction splits with
  | done => exact settled_nil
  | @segment segment rest others stands goesOn ih =>
    have here := plain segment List.mem_cons_self
    have later := ih fun other member => plain other (List.mem_cons_of_mem segment member)
    rw [List.flatMap_cons]
    cases segment with
    | braced name => exact settled_append (here name rfl) later
    | unclosed => exact later
    | special name => exact settled_append (here [.char name] rfl) later
    | named name => exact settled_append (here name rfl) later
    | literal glyph =>
      change Settled (glyph :: others.flatMap (·.value environment))
      refine settled_cons (.literal fun same next first => ?_) later
      -- A dollar that is kept has the same glyph behind it as in the template.
      subst same
      rw [goesOn.head?_values (undollared_of_stands stands)] at first
      cases stands with
      | literal kept => exact kept rfl next first

/-- Where no value that a template refers to holds a dollar, nothing in its expansion is a reference,
so that expanding it once more changes nothing, whatever the environment is. -/
theorem expand_settled (template : Text) {environment : Environment}
    (plain : ∀ name, Refers template name → dollar ∉ (environment.get? name).getD []) :
    (∀ environment', expand (expand template environment) environment' =
      expand template environment) ∧
    segments (expand template environment) = (expand template environment).map .literal := by
  have settled : Settled (expand template environment) :=
    (split_segments template).settled_values fun segment member name told =>
      plain name ⟨segment, member, told⟩
  exact ⟨expand_of_settled settled, settled⟩

def dollarsElsewhere : Environment where
  entries := [("A", "x"), ("$A", "B"), ("x", "$A")]
  distinct := by decide

def dollarsAbound : Text := "$A$$A$ $\x7b$A\x7d$%$\x7bA$"

theorem dollars_settled :
    (∀ name, Refers dollarsAbound name → dollar ∉ (dollarsElsewhere.get? name).getD []) ∧
      expand dollarsAbound dollarsElsewhere = "xA$ B$%A$" ∧
      expand "xA$ B$%A$" dollarsElsewhere = "xA$ B$%A$" := by
  have plain : ∀ segment ∈ segments dollarsAbound, ∀ name, segment.name? = some name →
      dollar ∉ (dollarsElsewhere.get? name).getD [] := by
    decide
  have referred : ∀ name, Refers dollarsAbound name →
      dollar ∉ (dollarsElsewhere.get? name).getD [] := by
    rintro name ⟨segment, member, told⟩
    exact plain segment member name told
  have expanded : expand dollarsAbound dollarsElsewhere = "xA$ B$%A$" := by decide
  have again := (expand_settled dollarsAbound referred).1 dollarsElsewhere
  rw [expanded] at again
  exact ⟨referred, expanded, again⟩

end GenWalk.Template
