import GenWalk.Proofs.Traversal.Keeping
import GenWalk.Proofs.Walk.Conclusion
import GenWalk.Proofs.Walk.Step

/-!
Invariants of the world a walk goes through. What no question, no record and no generator of a file
breaks holds at the end of a walk, however it ends (`Walk.Kept.run`).
-/

namespace GenWalk

variable {World : Type}

theorem Host.ended_leadsTo (host : Host World) (wanted : EntryKind) (path : Path) (world : World) :
    ended (host.leadsTo wanted path world) = ended (host.target path world) := by
  simp only [Host.leadsTo]
  cases host.target path world with
  | ok kind after => rfl
  | error fault after =>
    simp only
    split
    next => rfl
    next => rfl

structure Host.Leaves {α : Type} (host : Host World) (part : World → α) : Prop where
  kind : ∀ path world, part (ended (host.kind path world)) = part world
  target : ∀ path world, part (ended (host.target path world)) = part world
  names : ∀ path world, part (ended (host.names path world)) = part world
  content : ∀ path world, part (ended (host.content path world)) = part world
  note : ∀ record world, part (host.note record world) = part world

def Adapter.Leaves {α : Type} (adapter : Adapter World) (part : World → α) : Prop :=
  ∀ context world, part (adapter.execute context world).2 = part world

namespace Walk

/-- The condition outlives each question and each record, and, unless the walk is dry, the generator
of a file that has just been read. -/
structure Kept (host : Host World) (adapter : Adapter World) (request : WalkRequest)
    (good : World → Prop) : Prop where
  kind : ∀ path world, good world → good (ended (host.kind path world))
  target : ∀ path world, good world → good (ended (host.target path world))
  names : ∀ path world, good world → good (ended (host.names path world))
  content : ∀ path world, good world → good (ended (host.content path world))
  note : ∀ record world, good world → good (host.note record world)
  execute : request.dryRun = false → ∀ path world content after command, good world →
    host.content path world = .ok content after →
    FirstLine.read request.settings.keyword content = .command command → command ≠ [] →
    let context := contextOf command path.toText request.root
      (request.base.getD (host.environment after))
    good (adapter.execute context (host.note (foundRecord context) after)).2

variable {host : Host World} {adapter : Adapter World} {request : WalkRequest}
  {good : World → Prop}

theorem Kept.answer (kept : Kept host adapter request good) (question : Question) {world : World}
    (start : good world) : good (ended (host.answer question world)) := by
  cases question with
  | kind path => exact kept.kind path world start
  | isDirectory path =>
    rw [show ended (host.answer (.isDirectory path) world) = ended (host.target path world) from
      host.ended_leadsTo .directory path world]
    exact kept.target path world start
  | names directory => exact kept.names directory world start

theorem Kept.keeps (kept : Kept host adapter request good) :
    host.Keeps (fun _ => True) (fun state : World × Books => good state.1)
      (fun _ state => good state.1) where
  answer question _ state start := by
    have later := kept.answer question start
    cases asked : host.answer question state.1 with
    | ok answer after =>
      rw [asked] at later
      refine ⟨?_, later⟩
      cases question with
      | kind path => trivial
      | isDirectory path => trivial
      | names directory => exact fun _ _ => trivial
    | error fault after =>
      rw [asked] at later
      exact later
  note record state start := kept.note record state.1 start
  gaveUp _ _ _ start := start

theorem receiptIn_kept {dryRun : Bool} {context : Context} {world : World} (start : good world)
    (executed : dryRun = false → good (adapter.execute context world).2) :
    good (receiptIn adapter dryRun context world).2 := by
  unfold receiptIn
  split
  next => exact start
  next =>
    cases dryRun with
    | true => exact start
    | false => exact executed rfl

theorem Kept.perform (kept : Kept host adapter request good) {context : Context} {world : World}
    (start : good world)
    (executed : request.dryRun = false →
      good (adapter.execute context (host.note (foundRecord context) world)).2)
    (books : Books) :
    good (Journey.atEnd (Walk.perform host adapter request context (world, books))).1 := by
  rcases got : receiptIn adapter request.dryRun context (host.note (foundRecord context) world) with
    ⟨made, later⟩
  have stays := receiptIn_kept (kept.note _ world start) executed
  rw [got] at stays
  rw [perform_eq got]
  cases made.isFailed with
  | true => exact stays
  | false => exact kept.note _ later stays

theorem Kept.visit (kept : Kept host adapter request good) (path : Path) {world : World}
    (start : good world) (books : Books) :
    good (Journey.atEnd (Walk.visit host adapter request path (world, books))).1 := by
  have reading := kept.content path world start
  rcases visit_cases host adapter request path world books with
    ⟨fault, after, refused, visited⟩ | ⟨content, after, asked, visited⟩
  · rw [refused] at reading
    rw [visited]
    exact reading
  · rw [asked] at reading
    rcases visited with visited | visited | ⟨command, told, filled, visited⟩
    · rw [visited]
      exact reading
    · rw [visited]
      exact reading
    · rw [visited]
      exact kept.perform reading
        (fun real => kept.execute real path world content after command start asked told filled)
        books

theorem Kept.run (kept : Kept host adapter request good) {world : World} (start : good world) :
    good (ended (Walk.run host adapter request world)) := by
  have visits (path : Path) : Journey.Keeps (fun state : World × Books => good state.1)
      (fun _ state => good state.1) (Walk.visit host adapter request path) :=
    Journey.Keeps.iff_atEnd.2 fun state start => kept.visit path start state.2
  have anywhere : (Path.ofText request.root).Holds fun _ => True := fun _ _ => trivial
  have traversal := Traversal.run_keeps kept.keeps (fun path _ => visits path)
    request.settings.skipPrefixes anywhere
  have stays := Journey.Keeps.iff_atEnd.1 traversal (world, {}) start
  obtain ⟨_, last⟩ := run_concluded (Eq.refl (Traversal.run host request.settings.skipPrefixes
    (Walk.visit host adapter request) (Path.ofText request.root) (world, {})))
  rcases last with same | ⟨record, same⟩
  · rw [same]
    exact stays
  · rw [same]
    exact kept.note record _ stays

theorem kept_part {α : Type} {part : World → α} (left : host.Leaves part) (request : WalkRequest)
    (unmoved : request.dryRun = false → adapter.Leaves part) (value : α) :
    Kept host adapter request fun world => part world = value where
  kind path world same := (left.kind path world).trans same
  target path world same := (left.target path world).trans same
  names path world same := (left.names path world).trans same
  content path world same := (left.content path world).trans same
  note record world same := (left.note record world).trans same
  execute real path world content after command same asked _ _ := by
    have read := left.content path world
    rw [asked] at read
    exact (unmoved real _ _).trans ((left.note _ _).trans (read.trans same))

end Walk

end GenWalk
