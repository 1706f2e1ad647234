import GenWalk.Fault
import GenWalk.Log.Journal
import GenWalk.Text.Utf8

/-!
What a walk needs to know of the machine it runs on. A question may be refused, and the world may
move on while it is answered, so that nothing here assumes a tree that stands still.
-/

namespace GenWalk

inductive EntryKind where
  | directory
  | file
  | link
  | device
deriving DecidableEq, Inhabited

abbrev Query (World α : Type) := EStateM Fault World α

def Query.through {Whole Part α : Type} (part : Whole → Part) (withPart : Part → Whole → Whole)
    (query : Query Part α) : Query Whole α :=
  fun whole => match query (part whole) with
    | .ok answer after => .ok answer (withPart after whole)
    | .error fault after => .error fault (withPart after whole)

structure Host (World : Type) where
  kind : Path → Query World EntryKind
  /-- What the path leads to, with all links followed. -/
  target : Path → Query World EntryKind
  /-- The names in a directory, in no particular order. -/
  names : Path → Query World (List Text)
  content : Path → Query World Bytes
  resolve : Path → Query World Path
  environment : World → Environment
  note : LogRecord → World → World

namespace Host

variable {World : Type}

def through {Whole Part : Type} (part : Whole → Part) (withPart : Part → Whole → Whole)
    (host : Host Part) : Host Whole where
  kind path := (host.kind path).through part withPart
  target path := (host.target path).through part withPart
  names path := (host.names path).through part withPart
  content path := (host.content path).through part withPart
  resolve path := (host.resolve path).through part withPart
  environment whole := host.environment (part whole)
  note record whole := withPart (host.note record (part whole)) whole

/-- Whether the path leads to something of the given kind. That nothing is there is an answer, and
so is a name that cannot exist; any other refusal stays one. -/
def leadsTo (host : Host World) (wanted : EntryKind) (path : Path) : Query World Bool :=
  fun world => match host.target path world with
    | .ok kind after => .ok (kind = wanted) after
    | .error fault after => if fault.meansAbsent then .ok false after else .error fault after

def isDirectory (host : Host World) : Path → Query World Bool := host.leadsTo .directory

def isFile (host : Host World) : Path → Query World Bool := host.leadsTo .file

end Host

end GenWalk
