import GenWalk.Proofs.Traversal.Itinerary
import Mathlib

/-!
What a machine would answer at one moment. A machine that changes between two questions has one
snapshot for each of its worlds; in a set of worlds in which the tree stands still, all of them are
the same.
-/

namespace GenWalk

variable {World α : Type}

def Query.answer (query : Query World α) (world : World) : Except Fault α :=
  match query world with
  | .ok value _ => .ok value
  | .error fault _ => .error fault

def Query.ofAnswer (answer : World → Except Fault α) : Query World α :=
  fun world => match answer world with
    | .ok value => .ok value world
    | .error fault => .error fault world

@[simp] theorem Query.answer_ofAnswer (answer : World → Except Fault α) (world : World) :
    (ofAnswer answer).answer world = answer world := by
  simp only [Query.answer, ofAnswer]
  cases answer world with
  | ok value => rfl
  | error fault => rfl

/-- Whatever world of the set the query is asked in, it gets the same answer, and the world after it
is of the set again. -/
def Query.Constant (query : Query World α) (answer : Except Fault α) (worlds : World → Prop) : Prop :=
  ∀ world, worlds world → ∃ after, worlds after ∧ query world = match answer with
    | .ok value => .ok value after
    | .error fault => .error fault after

theorem Query.Constant.ofAnswer {answers : World → Except Fault α} {answer : Except Fault α}
    (worlds : World → Prop) (same : ∀ world, worlds world → answers world = answer) :
    (Query.ofAnswer answers).Constant answer worlds := by
  intro world inside
  refine ⟨world, inside, ?_⟩
  simp only [Query.ofAnswer, same world inside]

def toldOf (wanted : EntryKind) : Except Fault EntryKind → Except Fault Bool
  | .ok kind => .ok (kind = wanted)
  | .error fault => if fault.meansAbsent then .ok false else .error fault

theorem toldOf_eq_true {wanted : EntryKind} {told : Except Fault EntryKind} :
    toldOf wanted told = .ok true ↔ told = .ok wanted := by
  unfold toldOf
  split
  next => simp
  next => split <;> simp

theorem eq_error_of_toldOf {wanted : EntryKind} {told : Except Fault EntryKind} {fault : Fault}
    (refused : toldOf wanted told = .error fault) : told = .error fault := by
  unfold toldOf at refused
  split at refused
  next => cases refused
  next =>
    split at refused
    next => cases refused
    next => exact congrArg Except.error (Except.error.inj refused)

theorem Query.answer_leadsTo (host : Host World) (wanted : EntryKind) (path : Path) (world : World) :
    (host.leadsTo wanted path).answer world = toldOf wanted ((host.target path).answer world) := by
  simp only [answer, Host.leadsTo]
  cases host.target path world with
  | ok kind after => rfl
  | error fault after =>
    by_cases absent : fault.meansAbsent
    · simp [toldOf, absent]
    · simp [toldOf, absent]

theorem Query.Constant.leadsTo {host : Host World} {worlds : World → Prop} {path : Path}
    {told : Except Fault EntryKind} (constant : (host.target path).Constant told worlds)
    (wanted : EntryKind) : (host.leadsTo wanted path).Constant (toldOf wanted told) worlds := by
  intro world inside
  obtain ⟨after, stays, asked⟩ := constant world inside
  refine ⟨after, stays, ?_⟩
  cases told with
  | ok kind => simp only [Host.leadsTo, asked, toldOf]
  | error fault =>
    simp only [Host.leadsTo, asked, toldOf]
    split
    next => rfl
    next => rfl

/-- The answers of a machine about its tree. -/
structure Snapshot where
  kind : Path → Except Fault EntryKind
  target : Path → Except Fault EntryKind
  names : Path → Except Fault (List Text)
  content : Path → Except Fault Bytes

namespace Snapshot

def isDirectory (snapshot : Snapshot) (path : Path) : Except Fault Bool :=
  toldOf .directory (snapshot.target path)

def answer (snapshot : Snapshot) : (question : Question) → Except Fault question.Answer
  | .kind path => snapshot.kind path
  | .isDirectory path => snapshot.isDirectory path
  | .names directory => snapshot.names directory

theorem isDirectory_eq_true (snapshot : Snapshot) (path : Path) :
    snapshot.isDirectory path = .ok true ↔ snapshot.target path = .ok .directory :=
  toldOf_eq_true

end Snapshot

namespace Host

variable (host : Host World)

def snapshot (world : World) : Snapshot where
  kind path := (host.kind path).answer world
  target path := (host.target path).answer world
  names path := (host.names path).answer world
  content path := (host.content path).answer world

theorem answer_snapshot (world : World) (question : Question) :
    (host.snapshot world).answer question = (host.answer question).answer world := by
  cases question with
  | kind path => rfl
  | names directory => rfl
  | isDirectory path => exact (Query.answer_leadsTo host .directory path world).symm

/-- The machine that looks its answers up in the snapshot of each world, and keeps no log. -/
def ofSnapshots (views : World → Snapshot) : Host World where
  kind path := .ofAnswer fun world => (views world).kind path
  target path := .ofAnswer fun world => (views world).target path
  names directory := .ofAnswer fun world => (views world).names directory
  content path := .ofAnswer fun world => (views world).content path
  resolve path := pure path
  environment _ := .empty
  note _ world := world

@[simp] theorem snapshot_ofSnapshots (views : World → Snapshot) (world : World) :
    (ofSnapshots views).snapshot world = views world := by
  simp only [snapshot, ofSnapshots, Query.answer_ofAnswer]

/-- In the worlds of a set the tree stands still: neither questions about it nor records for the log
lead out of the set, and all its worlds give the answers of one snapshot. -/
structure Still (host : Host World) (snapshot : Snapshot) (worlds : World → Prop) : Prop where
  kind : ∀ path, (host.kind path).Constant (snapshot.kind path) worlds
  target : ∀ path, (host.target path).Constant (snapshot.target path) worlds
  names : ∀ path, (host.names path).Constant (snapshot.names path) worlds
  note : ∀ record world, worlds world → worlds (host.note record world)

theorem Still.answer {host : Host World} {snapshot : Snapshot} {worlds : World → Prop}
    (still : host.Still snapshot worlds) (question : Question) :
    (host.answer question).Constant (snapshot.answer question) worlds := by
  cases question with
  | kind path => exact still.kind path
  | names directory => exact still.names directory
  | isDirectory path => exact (still.target path).leadsTo .directory

theorem still_ofSnapshots (view : Snapshot) :
    (ofSnapshots fun _ : World => view).Still view fun _ => True where
  kind _ := .ofAnswer _ fun _ _ => rfl
  target _ := .ofAnswer _ fun _ _ => rfl
  names _ := .ofAnswer _ fun _ _ => rfl
  note _ _ _ := trivial

end Host

end GenWalk
