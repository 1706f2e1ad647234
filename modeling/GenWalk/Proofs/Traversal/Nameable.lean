import GenWalk.Proofs.Text.Carried
import GenWalk.Proofs.Traversal.Names
import GenWalk.Proofs.Traversal.Tour

/-!
What the operating system promises of names. Where a walk starts from a path that calls can carry, a
traversal leads to such paths only, and nothing but the system itself refuses an answer
(`Itinerary.nameable_ofRoot`).
-/

namespace GenWalk

/-- Listings hold names that calls can carry, and a question about a path of such names is refused
with a number or not at all. -/
structure Snapshot.Nameable (view : Snapshot) : Prop where
  listed : ∀ directory names, view.names directory = .ok names → ∀ name ∈ names, name.Carried
  kind : ∀ path fault, path.Holds Text.Carried → view.kind path = .error fault → fault.isSystem
  target : ∀ path fault, path.Holds Text.Carried → view.target path = .error fault → fault.isSystem
  names : ∀ path fault, path.Holds Text.Carried → view.names path = .error fault → fault.isSystem
  content : ∀ path fault, path.Holds Text.Carried → view.content path = .error fault → fault.isSystem

def Host.Nameable {World : Type} (host : Host World) : Prop := ∀ world, (host.snapshot world).Nameable

namespace Snapshot

variable {view : Snapshot}

theorem Nameable.answer (nameable : view.Nameable) (question : Question)
    (carried : question.path.Holds Text.Carried) {fault : Fault}
    (refused : view.answer question = .error fault) : fault.isSystem := by
  cases question with
  | kind path => exact nameable.kind path fault carried refused
  | isDirectory path => exact nameable.target path fault carried (eq_error_of_toldOf refused)
  | names directory => exact nameable.names directory fault carried refused

theorem Nameable.tells (nameable : view.Nameable) {question : Question} {answer : question.Answer}
    (answered : view.answer question = .ok answer) : question.Tells Text.Carried answer := by
  cases question with
  | kind path => trivial
  | isDirectory path => trivial
  | names directory => exact nameable.listed directory answer answered

end Snapshot

namespace Host.Nameable

variable {World : Type} {host : Host World} {world after : World}

theorem answer (nameable : host.Nameable) {question : Question}
    (carried : question.path.Holds Text.Carried) {fault : Fault}
    (refused : host.answer question world = .error fault after) : fault.isSystem := by
  refine (nameable world).answer question carried ?_
  rw [answer_snapshot, Query.answer, refused]

theorem tells (nameable : host.Nameable) {question : Question} {answer : question.Answer}
    (answered : host.answer question world = .ok answer after) :
    question.Tells Text.Carried answer := by
  refine (nameable world).tells ?_
  rw [answer_snapshot, Query.answer, answered]

theorem content (nameable : host.Nameable) {path : Path} (carried : path.Holds Text.Carried)
    {fault : Fault} (refused : host.content path world = .error fault after) : fault.isSystem := by
  refine (nameable world).content path fault carried ?_
  simp only [snapshot, Query.answer, refused]

end Host.Nameable

namespace Itinerary

variable {view : Snapshot}

structure Nameable (view : Snapshot) (itinerary : Itinerary) : Prop where
  listed : ∀ path ∈ itinerary.listed view, path.Holds Text.Carried
  ending : ∀ fault, itinerary.ending view = some (.refused fault) → fault.isSystem

theorem Holds.nameable (nameable : view.Nameable) {itinerary : Itinerary}
    (holds : itinerary.Holds Text.Carried) : Nameable view itinerary := by
  induction itinerary with
  | done => exact ⟨nofun, nofun⟩
  | giveUp fault =>
    refine ⟨nofun, fun other ended => ?_⟩
    cases ended
    exact holds
  | ask question next ih =>
    cases answered : view.answer question with
    | ok answer =>
      obtain ⟨listed, ending⟩ := ih answer (holds.2 answer (nameable.tells answered))
      constructor
      · simpa only [Itinerary.listed, answered] using listed
      · simpa only [Itinerary.ending, answered] using ending
    | error fault =>
      constructor
      · simp [Itinerary.listed, answered]
      · intro other ended
        simp only [Itinerary.ending, answered, Option.some.injEq, Interruption.refused.injEq]
          at ended
        exact ended ▸ nameable.answer question holds.1 answered
  | note message next ih => exact ⟨(ih holds).listed, (ih holds).ending⟩
  | visit path next ih =>
    obtain ⟨listed, ending⟩ := ih holds.2
    refine ⟨fun other member => ?_, ending⟩
    rcases List.mem_cons.1 member with rfl | later
    · exact holds.1
    · exact listed other later

end Itinerary

end GenWalk
