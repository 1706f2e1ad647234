import GenWalk.Fault
import GenWalk.Machine.Disk
import GenWalk.Path

/-!
Finding what a path names: name by name from a directory, through links, as far as the permissions
allow.
-/

namespace GenWalk

/-- Who looks. Nothing is closed to the owner of the machine; all others need the permissions that
everyone has. -/
structure Viewer where
  privileged : Bool
  directory : Location
deriving DecidableEq, Inhabited

inductive Permission where
  | read
  | write
  | pass
deriving DecidableEq

def Permission.bit : Permission → Nat
  | read => 4
  | write => 2
  | pass => 1

def Viewer.may (viewer : Viewer) (permission : Permission) (entry : Entry) : Bool :=
  viewer.privileged || entry.mode / permission.bit % 2 == 1

namespace Lookup

/-- The end of a path: a place, and what is there, if anything is. -/
structure Found where
  location : Location
  entry? : Option Entry
deriving DecidableEq, Inhabited

/-- How far a path leads without following a link. -/
inductive Stretch where
  | arrived (found : Found)
  | atLink (directory : Location) (target : Text) (rest : List Text)
deriving DecidableEq, Inhabited

def nameLimit : Nat := 255

def pathLimit : Nat := 4096

def linkLimit : Nat := 40

def dot : Text := "."
def twoDots : Text := ".."

def enter (disk : Disk) (viewer : Viewer) (directory : Location) : Except SystemError Unit :=
  match disk.entry? directory with
  | some entry@(.directory _) => if viewer.may .pass entry then .ok () else .error .accessDenied
  | some _ => .error .notDirectory
  | none => .error .notFound

def advance (disk : Disk) (viewer : Viewer) (follow : Bool) :
    (here : Location) → (pending : List Text) → Except SystemError Stretch
  | here, [] => .ok (.arrived ⟨here, disk.entry? here⟩)
  | here, name :: rest => do
    enter disk viewer here
    if name = dot then advance disk viewer follow here rest
    else if name = twoDots then advance disk viewer follow here.dropLast rest
    else if nameLimit < (Utf8.encode name).length then .error .nameTooLong
    else
      let next := here ++ [name]
      match disk.entry? next with
      | none => if rest.isEmpty then .ok (.arrived ⟨next, none⟩) else .error .notFound
      | some (.link target) =>
        if rest.isEmpty && !follow then .ok (.arrived ⟨next, some (.link target)⟩)
        else .ok (.atLink here target rest)
      | some _ => advance disk viewer follow next rest

def isAbsolute (text : Text) : Bool := text.head? == some slash

def walkNames (disk : Disk) (viewer : Viewer) (follow : Bool) :
    (links : Nat) → (here : Location) → (pending : List Text) → Except SystemError Found
  | links, here, pending => do
    match ← advance disk viewer follow here pending with
    | .arrived found => .ok found
    | .atLink directory target rest => match links with
      | 0 => .error .linkLoop
      | links + 1 =>
        walkNames disk viewer follow links (if isAbsolute target then [] else directory)
          ((Path.literal target).parts ++ rest)

/-- Finds what a path names. A path of which only the last name is missing ends at a place without
entry. -/
def find (disk : Disk) (viewer : Viewer) (follow : Bool) (text : Text) : Except Fault Found :=
  let refuse (error : SystemError) : Except Fault Found := .error (.system error (some text))
  match Fault.ofName? text with
  | some fault => .error fault
  | none =>
    if text.isEmpty then refuse .notFound
    else if pathLimit ≤ (Utf8.encode text).length then refuse .nameTooLong
    else match walkNames disk viewer follow linkLimit
        (if isAbsolute text then [] else viewer.directory) (Path.literal text).parts with
      | .ok found => .ok found
      | .error error => refuse error

def findEntry (disk : Disk) (viewer : Viewer) (follow : Bool) (text : Text) :
    Except Fault (Location × Entry) := do
  let found ← find disk viewer follow text
  match found.entry? with
  | some entry => .ok (found.location, entry)
  | none => .error (.system .notFound (some text))

def pathTo (location : Location) : Path := { anchor := .root, parts := location }

structure RealPath where
  location : Location
  written : Path := {}
  isCyclic : Bool := false
deriving DecidableEq, Inhabited

/-- One name more. Behind a cycle the names are kept as they are; a place that cannot be looked at
counts as no link. `underway` are the links that are being followed. -/
def extend (disk : Disk) (viewer : Viewer) : (depth : Nat) → (underway : List Location) →
    RealPath → Text → RealPath
  | depth, underway, real, name =>
    if real.isCyclic then { real with location := real.location ++ [name] }
    else if name = dot then real
    else if name = twoDots then
      { real with location := real.location.dropLast, written := real.written.above }
    else
      let next := real.location ++ [name]
      let reached : RealPath := { location := next, written := real.written.child name }
      match findEntry disk viewer false (pathTo next).toText with
      | .ok (_, .link target) =>
        if underway.contains next then { reached with isCyclic := true }
        else match depth with
          | 0 => { reached with isCyclic := true }
          | depth + 1 =>
            ((Path.literal target).parts).foldl (extend disk viewer depth (next :: underway))
              (if isAbsolute target then { location := [], written := { anchor := .root } } else real)
      | _ => reached

def nestLimit : Nat := 900

/-- One name more of a path that is resolved. Names are looked up one after the other, so that the
first one that no call can carry is refused. -/
def resolveStep (disk : Disk) (viewer : Viewer) (real : RealPath) (name : Text) :
    Except Fault RealPath :=
  let next := extend disk viewer nestLimit [] real name
  if real.isCyclic then .ok next
  else match Fault.ofName? (real.written.child name).toText with
    | some fault => .error fault
    | none => .ok next

def resolve (disk : Disk) (viewer : Viewer) (path : Path) : Except Fault Path := do
  let start : RealPath :=
    if path.anchor = .relative then { location := viewer.directory }
    else { location := [], written := { anchor := .root } }
  let real ← path.parts.foldlM (resolveStep disk viewer) start
  let resolved := (pathTo real.location).normalized
  match findEntry disk viewer true resolved.toText with
  | .error (.system .linkLoop _) => .error (.cyclicPath resolved.toText)
  | .error fault => if fault.isSystem then .ok resolved else .error fault
  | .ok _ => .ok resolved

end Lookup

end GenWalk
