import GenWalk.Proofs.Traversal.Snapshot
import GenWalk.Walk

/-!
How a walk is concluded. Its answer depends on the books and on what has cut its traversal short,
and behind the traversal there is at most one more record for the log (`Walk.run_concluded`).
-/

namespace GenWalk

def ended {ε State α : Type} : EStateM.Result ε State α → State
  | .ok _ state => state
  | .error _ state => state

theorem Query.eq_ok_of_answer {World α : Type} {query : Query World α} {world : World} {value : α}
    (answered : query.answer world = .ok value) :
    query world = .ok value (ended (query world)) := by
  simp only [Query.answer] at answered
  cases asked : query world with
  | ok other after =>
    rw [asked] at answered
    cases answered
    rfl
  | error fault after =>
    rw [asked] at answered
    cases answered

namespace Walk

def resultOf (request : WalkRequest) (books : Books) (error : Option Interruption) :
    WalkResult where
  root := request.root
  dryRun := request.dryRun
  books
  error

/-- What such a walk answers. -/
def concluded (request : WalkRequest) (books : Books) (error : Option Interruption) :
    Except Fault WalkResult :=
  match error with
  | some (.refused fault) =>
    if fault.isSystem then .ok (resultOf request books error) else .error fault
  | _ => .ok (resultOf request books error)

variable {World : Type} {host : Host World} {adapter : Adapter World} {request : WalkRequest}

theorem concluded_eq_ok {books : Books} {error : Option Interruption}
    (system : ∀ fault, error = some (.refused fault) → fault.isSystem) :
    concluded request books error = .ok (resultOf request books error) := by
  rcases error with _ | (fault | _ | _)
  · rfl
  · exact if_pos (system fault rfl)
  · rfl
  · rfl

theorem run_concluded {world : World} {outcome : EStateM.Result Interruption (World × Books) Unit}
    (traversed : Traversal.run host request.settings.skipPrefixes (visit host adapter request)
      (Path.ofText request.root) (world, {}) = outcome) :
    (run host adapter request).answer world =
        concluded request (Journey.atEnd outcome).2 (Journey.interruption? outcome) ∧
      (ended (run host adapter request world) = (Journey.atEnd outcome).1 ∨
        ∃ record, ended (run host adapter request world) =
          host.note record (Journey.atEnd outcome).1) := by
  simp only [Query.answer, run, traversed]
  cases outcome with
  | ok value state => exact ⟨rfl, Or.inl rfl⟩
  | error interruption state =>
    cases interruption with
    | refused fault =>
      simp only [Journey.interruption?, Journey.atEnd, concluded]
      cases fault.isSystem with
      | true => exact ⟨rfl, Or.inr ⟨_, rfl⟩⟩
      | false => exact ⟨rfl, Or.inl rfl⟩
    | unterminated file keyword => exact ⟨rfl, Or.inr ⟨_, rfl⟩⟩
    | generator command path cause => exact ⟨rfl, Or.inr ⟨_, rfl⟩⟩

end Walk

end GenWalk
