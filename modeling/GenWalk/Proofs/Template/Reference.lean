import GenWalk.Template
import Mathlib.Data.List.Basic

/-!
What an expansion depends on. A template refers to certain names, and environments that give the same
values to these expand it to the same text (`expand_congr`).
-/

namespace GenWalk.Template

namespace Segment

def name? : Segment → Option Text
  | braced name => some name
  | unclosed => none
  | special name => some [.char name]
  | named name => some name
  | literal _ => none

theorem value_congr {environment environment' : Environment} (segment : Segment)
    (same : ∀ name, segment.name? = some name →
      (environment.get? name).getD [] = (environment'.get? name).getD []) :
    segment.value environment = segment.value environment' := by
  cases segment with
  | braced name => exact same name rfl
  | unclosed => rfl
  | special name => exact same [.char name] rfl
  | named name => exact same name rfl
  | literal glyph => rfl

end Segment

/-- A reference to the name stands in the template. -/
def Refers (template name : Text) : Prop :=
  ∃ segment ∈ segments template, segment.name? = some name

instance (template name : Text) : Decidable (Refers template name) :=
  inferInstanceAs (Decidable (∃ segment ∈ segments template, segment.name? = some name))

theorem expand_congr {template : Text} {environment environment' : Environment}
    (same : ∀ name, Refers template name →
      (environment.get? name).getD [] = (environment'.get? name).getD []) :
    expand template environment = expand template environment' := by
  unfold expand
  apply List.flatMap_congr
  intro segment member
  exact segment.value_congr fun name told => same name ⟨segment, member, told⟩

example : Refers "e $A$\x7bB\x7d" "B" ∧ ¬Refers "e $$A" "A" := by decide

end GenWalk.Template
