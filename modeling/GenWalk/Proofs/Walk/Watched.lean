import GenWalk.Proofs.Traversal.Snapshot
import GenWalk.Proofs.Walk.Alike

/-!
A walk under observation: the files that are opened and the generators that are run are put down
in their order. Watching changes nothing (`Walk.run_watched`).
-/

namespace GenWalk

/-- What can be seen of a walk from outside. -/
inductive Event where
  | opened (path : Path)
  | ran (context : Context) (receipt : Receipt)

variable {World : Type}

def Host.watched (host : Host World) : Host (World × List Event) :=
  { host.through Prod.fst fun world whole => (world, whole.2) with
    content path := fun (world, events) => match host.content path world with
      | .ok bytes after => .ok bytes (after, events ++ [.opened path])
      | .error fault after => .error fault (after, events ++ [.opened path]) }

def Adapter.watched (adapter : Adapter World) : Adapter (World × List Event) where
  name := adapter.name
  objection? := adapter.objection?
  execute context whole :=
    let (receipt, after) := adapter.execute context whole.1
    (receipt, (after, whole.2 ++ [.ran context receipt]))

theorem Host.watched_read {host : Host World} {path : Path} {world after : World} {content : Bytes}
    (read : host.content path world = .ok content after) (events : List Event) :
    host.watched.content path (world, events) = .ok content (after, events ++ [.opened path]) := by
  simp only [watched, read]

theorem Host.watched_refused {host : Host World} {path : Path} {world after : World} {fault : Fault}
    (refused : host.content path world = .error fault after) (events : List Event) :
    host.watched.content path (world, events) = .error fault (after, events ++ [.opened path]) := by
  simp only [watched, refused]

theorem Query.Constant.through {Extra α : Type} {query : Query World α} {answer : Except Fault α}
    {worlds : World → Prop} (constant : query.Constant answer worlds) (extra : Extra) :
    (query.through Prod.fst fun world whole => (world, whole.2)).Constant answer
      fun whole => worlds whole.1 ∧ whole.2 = extra := by
  rintro ⟨world, _⟩ ⟨inside, rfl⟩
  obtain ⟨after, stays, asked⟩ := constant world inside
  refine ⟨(after, _), ⟨stays, rfl⟩, ?_⟩
  simp only [Query.through, asked]
  cases answer with
  | ok value => rfl
  | error fault => rfl

theorem Host.Still.watched {host : Host World} {view : Snapshot} {worlds : World → Prop}
    (still : host.Still view worlds) (events : List Event) :
    host.watched.Still view fun whole => worlds whole.1 ∧ whole.2 = events where
  kind path := (still.kind path).through events
  target path := (still.target path).through events
  names path := (still.names path).through events
  note := by
    rintro record ⟨world, _⟩ ⟨inside, rfl⟩
    exact ⟨still.note record world inside, rfl⟩

end GenWalk
