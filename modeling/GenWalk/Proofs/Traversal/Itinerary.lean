import GenWalk.Traversal

/-!
The traversal as a tree that branches on the answers of the machine. The tree knows nothing of a
machine or of what is done with a file, so that what holds of all its branches holds of every
traversal. The main statement `run_eq_play` says that a traversal plays this tree.
-/

namespace GenWalk

namespace Journey

variable {State α : Type}

def atEnd : EStateM.Result Interruption State α → State
  | .ok _ state => state
  | .error _ state => state

def interruption? : EStateM.Result Interruption State α → Option Interruption
  | .ok _ _ => none
  | .error interruption _ => some interruption

end Journey

/-- What a traversal wants to know of a machine. -/
inductive Question where
  | kind (path : Path)
  | isDirectory (path : Path)
  | names (directory : Path)

abbrev Question.Answer : Question → Type
  | kind _ => EntryKind
  | isDirectory _ => Bool
  | names _ => List Text

def Host.answer {World : Type} (host : Host World) :
    (question : Question) → Query World question.Answer
  | .kind path => host.kind path
  | .isDirectory path => host.isDirectory path
  | .names directory => host.names directory

/-- A traversal before any question is answered. -/
inductive Itinerary where
  | done
  | giveUp (fault : Fault)
  | ask (question : Question) (next : question.Answer → Itinerary)
  | note (message : Text) (next : Itinerary)
  | visit (path : Path) (next : Itinerary)

namespace Itinerary

def andThen : Itinerary → Itinerary → Itinerary
  | done, last => last
  | giveUp fault, _ => giveUp fault
  | ask question next, last => ask question fun answer => (next answer).andThen last
  | note message next, last => note message (next.andThen last)
  | visit path next, last => visit path (next.andThen last)

def each (entry : Text → Itinerary) : List Text → Itinerary
  | [] => done
  | name :: rest => (entry name).andThen (each entry rest)

def leaf (path : Path) : EntryKind → Itinerary
  | .link => ask (.isDirectory path) fun (isDirectory : Bool) =>
    if isDirectory then done else visit path done
  | _ => visit path done

def entry (prefixes : List Text) (enter : Path → Itinerary) (path : Path) : Itinerary :=
  ask (.kind path) fun (kind : EntryKind) => match kind with
    | .directory => match Visit.of prefixes path with
      | .skip => note ("Skipping directory " ++ path.toText) done
      | .enter => enter path
    | other => leaf path other

def within (prefixes : List Text) : (depth : Nat) → (directory : Path) → Itinerary
  | 0, directory => giveUp (.system .nameTooLong (some directory.toText))
  | depth + 1, directory => ask (.names directory) fun (names : List Text) =>
    each (fun name => entry prefixes (within prefixes depth) (directory.child name))
      (Text.sorted names)

def ofRoot (prefixes : List Text) (root : Path) : Itinerary :=
  ask (.kind root) fun (kind : EntryKind) => match kind with
    | .directory => within prefixes Traversal.depthLimit root
    | .link => ask (.isDirectory root) fun (isDirectory : Bool) =>
      if isDirectory then note ("Not following symlinked directory " ++ root.toText) done
      else visit root done
    | _ => visit root done

variable {World Gathered : Type}

def play (host : Host World) (visiting : Path → Journey World Gathered Unit) :
    Itinerary → Journey World Gathered Unit
  | done => pure ()
  | giveUp fault => throw (.refused fault)
  | ask question next => do
    let answer ← Journey.ask (host.answer question)
    (next answer).play host visiting
  | note message next => do
    Journey.note host Level.debug Traversal.source message
    next.play host visiting
  | visit path next => do
    visiting path
    next.play host visiting

variable (host : Host World) (visiting : Path → Journey World Gathered Unit)

theorem play_answered {question : Question} {next : question.Answer → Itinerary} {world after : World}
    {answer : question.Answer} (gathered : Gathered)
    (answered : host.answer question world = .ok answer after) :
    (ask question next).play host visiting (world, gathered) =
      (next answer).play host visiting (after, gathered) := by
  simp only [play, bind, EStateM.bind, Journey.ask, answered]

theorem play_refused {question : Question} {next : question.Answer → Itinerary} {world after : World}
    {fault : Fault} (gathered : Gathered)
    (refused : host.answer question world = .error fault after) :
    (ask question next).play host visiting (world, gathered) =
      .error (.refused fault) (after, gathered) := by
  simp only [play, bind, EStateM.bind, Journey.ask, refused]

theorem play_visited {path : Path} {next : Itinerary} {start after : World × Gathered}
    (visited : visiting path start = .ok () after) :
    (visit path next).play host visiting start = next.play host visiting after := by
  simp only [play, bind, EStateM.bind, visited]

theorem play_stopped {path : Path} {next : Itinerary} {start after : World × Gathered}
    {interruption : Interruption} (stopped : visiting path start = .error interruption after) :
    (visit path next).play host visiting start = .error interruption after := by
  simp only [play, bind, EStateM.bind, stopped]

theorem play_andThen (first last : Itinerary) :
    (first.andThen last).play host visiting =
      (do first.play host visiting; last.play host visiting) := by
  induction first with
  | done => rfl
  | giveUp fault => rfl
  | ask question next ih => simp only [andThen, play, ih, bind_assoc]
  | note message next ih => simp only [andThen, play, ih, bind_assoc]
  | visit path next ih => simp only [andThen, play, ih, bind_assoc]

theorem play_each (entry : Text → Itinerary) (names : List Text) :
    (each entry names).play host visiting =
      names.forM fun name => (entry name).play host visiting := by
  induction names with
  | nil => rfl
  | cons name rest ih => rw [each, play_andThen, ih]; rfl

theorem play_leaf (path : Path) (kind : EntryKind) :
    (leaf path kind).play host visiting = (match kind with
      | .link => do unless ← Journey.ask (host.isDirectory path) do visiting path
      | _ => visiting path) := by
  cases kind with
  | link =>
    simp only [leaf, play]
    congr 1
    funext isDirectory
    cases isDirectory with
    | true => rfl
    | false => exact bind_pure_unit
  | directory => exact bind_pure_unit
  | file => exact bind_pure_unit
  | device => exact bind_pure_unit

theorem below_eq_play (prefixes : List Text) (depth : Nat) (directory : Path) :
    Traversal.below host prefixes visiting depth directory =
      (within prefixes depth directory).play host visiting := by
  induction depth generalizing directory with
  | zero => rfl
  | succ depth ih =>
    simp only [Traversal.below, within, play, play_each]
    congr 1
    funext names
    congr 1
    funext name
    simp only [entry, play]
    congr 1
    funext kind
    cases kind with
    | directory =>
      simp only
      cases Visit.of prefixes (directory.child name) with
      | enter => exact ih _
      | skip => exact bind_pure_unit.symm
    | link => exact (play_leaf host visiting _ .link).symm
    | file => exact (play_leaf host visiting _ .file).symm
    | device => exact (play_leaf host visiting _ .device).symm

theorem run_eq_play (prefixes : List Text) (root : Path) :
    Traversal.run host prefixes visiting root = (ofRoot prefixes root).play host visiting := by
  simp only [Traversal.run, ofRoot, play]
  congr 1
  funext kind
  cases kind with
  | directory => exact below_eq_play host visiting prefixes _ root
  | link =>
    simp only [play]
    congr 1
    funext isDirectory
    cases isDirectory with
    | true => exact bind_pure_unit.symm
    | false => exact bind_pure_unit.symm
  | file => exact bind_pure_unit.symm
  | device => exact bind_pure_unit.symm

end Itinerary

end GenWalk
