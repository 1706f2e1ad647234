import GenWalk.Text.Utf8

/-!
The disk: what stands at which place below the root. A place is the list of names that leads to it.
-/

namespace GenWalk

abbrev Location := List Text

/-- What a file holds: bytes, or one of the programs that the machine itself can run. -/
inductive FileContent where
  | bytes (value : Bytes)
  | program (name : String)
deriving DecidableEq, Inhabited

inductive Entry where
  | file (mode : Nat) (content : FileContent)
  | directory (mode : Nat)
  | link (target : Text)
  | device
deriving DecidableEq, Inhabited

namespace Entry

def usualFileMode : Nat := 0o644
def usualDirectoryMode : Nat := 0o755

def mode : Entry → Nat
  | file mode _ | directory mode => mode
  | link _ | device => 0o777

def withMode (mode : Nat) : Entry → Entry
  | file _ content => file mode content
  | directory _ => directory mode
  | other => other

def isDirectory : Entry → Bool
  | directory _ => true
  | _ => false

end Entry

structure Disk where
  entries : List (Location × Entry) := []
deriving Inhabited

namespace Disk

/-- The root is a directory even of an empty disk. -/
def entry? (disk : Disk) (location : Location) : Option Entry :=
  match disk.entries.lookup location with
  | some entry => some entry
  | none => if location.isEmpty then some (.directory Entry.usualDirectoryMode) else none

def assign (location : Location) (entry : Entry) :
    List (Location × Entry) → List (Location × Entry)
  | [] => [(location, entry)]
  | head :: rest =>
    if head.1 = location then (location, entry) :: rest else head :: assign location entry rest

def insert (disk : Disk) (location : Location) (entry : Entry) : Disk :=
  ⟨assign location entry disk.entries⟩

def erase (disk : Disk) (location : Location) : Disk :=
  ⟨disk.entries.filter fun entry => !location.isPrefixOf entry.1⟩

def names (disk : Disk) (directory : Location) : List Text :=
  disk.entries.filterMap fun entry =>
    if entry.1.dropLast = directory then entry.1.getLast? else none

def ensureDirectory (disk : Disk) (location : Location) : Disk :=
  (List.range location.length).foldl (fun current depth =>
    let place := location.take (depth + 1)
    if (current.entry? place).isSome then current
    else current.insert place (.directory Entry.usualDirectoryMode)) disk

def move (disk : Disk) (source target : Location) : Disk :=
  ⟨(disk.erase target).entries.map fun entry =>
    if source.isPrefixOf entry.1 then (target ++ entry.1.drop source.length, entry.2) else entry⟩

end Disk

end GenWalk
