import GenWalk.Host
import GenWalk.Machine.Lookup

/-!
A machine: a disk, a working directory and a user, with a log and what has been put out so far. The
orders here read and change the disk as the user may; `Machine.host` answers the questions of a
walk.
-/

namespace GenWalk

structure Machine where
  disk : Disk := {}
  directory : Location := []
  privileged : Bool := true
  /-- A confined machine lets no process change its user. -/
  confined : Bool := false
  environment : Environment := .empty
  clock : Text := []
  journal : Journal := {}
  console : Text := []
  spoken : Bytes := []
deriving Inhabited

namespace Machine

def viewer (machine : Machine) : Viewer :=
  { privileged := machine.privileged, directory := machine.directory }

def dropPrivilege (machine : Machine) : Except Fault Machine :=
  if machine.confined then .error (.system .notPermitted none)
  else .ok { machine with privileged := false }

def findEntry (machine : Machine) (follow : Bool) (path : Text) : Except Fault (Location × Entry) :=
  Lookup.findEntry machine.disk machine.viewer follow path

def kindOf : Entry → EntryKind
  | .file _ _ => .file
  | .directory _ => .directory
  | .link _ => .link
  | .device => .device

def kind (machine : Machine) (follow : Bool) (path : Text) : Except Fault EntryKind :=
  (machine.findEntry follow path).map fun found => kindOf found.2

def demand (machine : Machine) (permission : Permission) (entry : Entry) (path : Text) :
    Except Fault Unit :=
  if machine.viewer.may permission entry then .ok ()
  else .error (.system .accessDenied (some path))

def names (machine : Machine) (path : Text) : Except Fault (List Text) := do
  let (location, entry) ← machine.findEntry true path
  unless entry.isDirectory do throw (.system .notDirectory (some path))
  machine.demand .read entry path
  return machine.disk.names location

def programMark : Bytes := [0x7F, 0x45, 0x4C, 0x46]

def contentOf : Entry → Bytes
  | .file _ (.bytes value) => value
  | .file _ (.program _) => programMark
  | _ => []

def content (machine : Machine) (path : Text) : Except Fault Bytes := do
  let (_, entry) ← machine.findEntry true path
  if entry.isDirectory then throw (.system .isDirectory (some path))
  machine.demand .read entry path
  return contentOf entry

def putEntry (machine : Machine) (location : Location) (entry : Entry) : Machine :=
  { machine with disk := machine.disk.insert location entry }

def openForWriting (machine : Machine) (path : Text) : Except Fault (Location × Machine) := do
  let found ← Lookup.find machine.disk machine.viewer true path
  match found.entry? with
  | some entry =>
    if entry.isDirectory then throw (.system .isDirectory (some path))
    machine.demand .write entry path
    return (found.location, machine)
  | none =>
    if found.location.getLast? = some Lookup.dot then throw (.system .isDirectory (some path))
    let parent := (machine.disk.entry? found.location.dropLast).getD default
    machine.demand .write parent path
    return (found.location,
      machine.putEntry found.location (.file Entry.usualFileMode (.bytes [])))

def alterFile (machine : Machine) (location : Location) (change : Bytes → Bytes) : Machine :=
  match machine.disk.entry? location with
  | some entry@(.file mode _) =>
    machine.putEntry location (.file mode (.bytes (change (contentOf entry))))
  | _ => machine

def write (machine : Machine) (path : Text) (bytes : Bytes) : Except Fault Machine := do
  let (location, opened) ← machine.openForWriting path
  return opened.alterFile location fun _ => bytes

def shownOnConsole (text : Text) : Text :=
  text.flatMap fun glyph => if glyph.isChar then [glyph] else Text.numericEscape glyph.codePoint

/-- Writes a line of the log. A file takes only lines that are Unicode throughout. -/
def deliver (machine : Machine) : Destination × Text → Machine
  | (.console, line) => { machine with
      console := machine.console ++ shownOnConsole line ++ [.char '\n'] }
  | (.file path, line) =>
    if line.isClean then
      machine.alterFile path.parts fun old => old ++ Utf8.encode (line ++ [.char '\n'])
    else machine

def note (record : LogRecord) (machine : Machine) : Machine :=
  (machine.journal.deliveries machine.clock record).foldl deliver machine

def openLog (machine : Machine) (name : Text) : Except Fault (Path × Machine) := do
  let path := ((Lookup.pathTo machine.directory).join (.ofText name)).normalized
  let (location, opened) ← machine.openForWriting path.toText
  return (Lookup.pathTo location, opened)

def setupLog (request : LogRequest) : Query Machine Unit := fun machine =>
  let attempt := machine.openLog (request.file?.getD [])
  let opened := match request.file?, attempt with
    | some _, .ok (_, opened) => opened
    | _, _ => machine
  let (answer, journal) := machine.journal.setup request fun _ => attempt.map Prod.fst
  let after := { opened with journal }
  match answer with
  | .ok () => .ok () after
  | .error fault => .error fault after

def look (answer : Machine → Except Fault α) : Query Machine α := fun machine =>
  match answer machine with
  | .ok value => .ok value machine
  | .error fault => .error fault machine

def host : Host Machine where
  kind path := look (·.kind false path.toText)
  target path := look (·.kind true path.toText)
  names path := look (·.names path.toText)
  content path := look (·.content path.toText)
  resolve path := look fun machine => Lookup.resolve machine.disk machine.viewer path
  environment := Machine.environment
  note := Machine.note

end Machine

end GenWalk
