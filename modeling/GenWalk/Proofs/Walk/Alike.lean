import GenWalk.Proofs.Traversal.Alike
import GenWalk.Walk

/-!
Walks on two machines that answer alike, with adapters that do alike. The main statement
`Walk.run_alike` says that both walks come to the same result.
-/

namespace GenWalk

variable {World World' : Type}

/-- Two adapters that give the same receipts in related worlds and lead to related worlds. -/
structure Adapter.Alike (worlds : World → World' → Prop) (adapter : Adapter World)
    (adapter' : Adapter World') : Prop where
  name : adapter.name = adapter'.name
  objection? : adapter.objection? = adapter'.objection?
  execute : ∀ context world world', worlds world world' →
    (adapter.execute context world).1 = (adapter'.execute context world').1 ∧
      worlds (adapter.execute context world).2 (adapter'.execute context world').2

namespace Walk

variable {worlds : World → World' → Prop} {host : Host World} {host' : Host World'}
  {adapter : Adapter World} {adapter' : Adapter World'}

theorem receipt_alike (adapters : adapter.Alike worlds adapter') (dryRun : Bool) (context : Context) :
    Alike (Together worlds Eq) (receipt adapter dryRun context) (receipt adapter' dryRun context) := by
  rintro ⟨world, books⟩ ⟨world', _⟩ ⟨near, rfl⟩
  obtain ⟨same, later⟩ := adapters.execute context world world' near
  simp only [receipt, adapters.objection?, adapters.name]
  cases adapter'.objection? context with
  | some error => exact ⟨rfl, near, rfl⟩
  | none =>
    cases dryRun with
    | true => exact ⟨rfl, near, rfl⟩
    | false => exact ⟨same, later, rfl⟩

theorem gather_alike (change : Books → Books) :
    Alike (Together worlds Eq) (Journey.gather change : Journey World Books Unit)
      (Journey.gather change) :=
  .gather fun _ _ same => congrArg change same

theorem perform_alike {request request' : WalkRequest}
    (noted : ∀ record world world', worlds world world' →
      worlds (host.note record world) (host'.note record world'))
    (dryRun : request.dryRun = request'.dryRun) {context context' : Context}
    (directive : context.directive = context'.directive)
    (receipts : Alike (Together worlds Eq) (receipt adapter request.dryRun context)
      (receipt adapter' request'.dryRun context')) :
    Alike (Together worlds Eq) (perform host adapter request context)
      (perform host' adapter' request' context') := by
  have command : context.command = context'.command := congrArg Directive.expanded directive
  have path : context.path = context'.path := congrArg Directive.path directive
  simp only [perform, directive, command, path, dryRun] at receipts ⊢
  refine .bind (gather_alike _) fun _ => .bind (.note noted _ _ _) fun _ =>
    .bind receipts fun receipt => .bind (gather_alike _) fun _ => ?_
  cases receipt.isFailed with
  | true => exact .bind (.throw _) fun _ => .bind (gather_alike _) fun _ => .note noted _ _ _
  | false => exact .bind (gather_alike _) fun _ => .note noted _ _ _

theorem visit_alike
    (noted : ∀ record world world', worlds world world' →
      worlds (host.note record world) (host'.note record world'))
    (environment : ∀ world world', worlds world world' →
      host.environment world = host'.environment world')
    (adapters : adapter.Alike worlds adapter') (request : WalkRequest) {path : Path}
    (content : Alike worlds (host.content path) (host'.content path)) :
    Alike (Together worlds Eq) (visit host adapter request path)
      (visit host' adapter' request path) := by
  refine .bind (.ask content) fun content => ?_
  cases (FirstLine.read request.settings.keyword content).command? with
  | none => exact .throw _
  | some command =>
    cases command with
    | nil => exact .pure ()
    | cons glyph rest =>
      intro state state' near
      have same := environment state.1 state'.1 near.1
      show EndAlike _ (perform host adapter request (contextOf (glyph :: rest) path.toText
        request.root (request.base.getD (host.environment state.1))) state) _
      rw [same]
      exact perform_alike noted rfl rfl (receipt_alike adapters _ _) state state' near

theorem run_alike_of_traversal {request request' : WalkRequest}
    (noted : ∀ record world world', worlds world world' →
      worlds (host.note record world) (host'.note record world'))
    (root : request.root = request'.root) (dryRun : request.dryRun = request'.dryRun)
    {world : World} {world' : World'}
    (traversed : EndAlike (Together worlds Eq)
      (Traversal.run host request.settings.skipPrefixes (visit host adapter request)
        (Path.ofText request.root) (world, {}))
      (Traversal.run host' request'.settings.skipPrefixes (visit host' adapter' request')
        (Path.ofText request'.root) (world', {}))) :
    EndAlike worlds (run host adapter request world) (run host' adapter' request' world') := by
  have stopped (result : WalkResult) : Alike worlds (run.stopped host request result)
      (run.stopped host' request' result) := by
    intro world world' near
    rw [run.stopped, run.stopped, root]
    exact ⟨rfl, noted _ world world' near⟩
  simp only [run]
  rcases traversed.elim with ⟨_, ⟨after, books⟩, ⟨after', _⟩, ran, ran', later, rfl⟩ |
    ⟨interruption, ⟨after, books⟩, ⟨after', _⟩, ran, ran', later, rfl⟩
  · rw [ran, ran', root, dryRun]
    exact ⟨rfl, later⟩
  · rw [ran, ran', root, dryRun]
    cases interruption with
    | refused fault =>
      simp only
      cases fault.isSystem with
      | true => exact stopped _ after after' later
      | false => exact ⟨rfl, later⟩
    | unterminated file keyword => exact stopped _ after after' later
    | generator command path cause => exact stopped _ after after' later

theorem run_alike (hosts : host.Alike worlds host') (adapters : adapter.Alike worlds adapter')
    (request : WalkRequest) : Alike worlds (run host adapter request) (run host' adapter' request) := by
  intro world world' near
  have traversed := hosts.play
    (fun path => visit_alike hosts.note hosts.environment adapters request (hosts.content path))
    (Itinerary.ofRoot request.settings.skipPrefixes (Path.ofText request.root)) (world, {}) (world', {})
    ⟨near, rfl⟩
  rw [← Itinerary.run_eq_play, ← Itinerary.run_eq_play] at traversed
  exact run_alike_of_traversal hosts.note rfl rfl traversed

end Walk

end GenWalk
