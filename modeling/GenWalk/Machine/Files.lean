import GenWalk.Machine.Basic

/-!
Orders that make, move and take away entries of the disk.
-/

namespace GenWalk.Machine

def vacantPlace (machine : Machine) (path : Text) : Except Fault Location := do
  let found ← Lookup.find machine.disk machine.viewer false path
  if found.entry?.isSome then throw (.system .alreadyExists (some path))
  let parent := (machine.disk.entry? found.location.dropLast).getD default
  machine.demand .write parent path
  return if found.location.getLast? = some Lookup.dot then found.location.dropLast
    else found.location

def makeDirectory (machine : Machine) (path : Text) : Except Fault Machine := do
  let bare := (path.reverse.dropWhile (· == slash)).reverse
  let location ← machine.vacantPlace (if bare.isEmpty then path else bare)
  return machine.putEntry location (.directory Entry.usualDirectoryMode)

def makeDirectories (machine : Machine) (path : Text) : Except Fault Machine := do
  let target := Path.ofText path
  (List.range target.parts.length).foldlM (fun current depth => do
    let place := ({ target with parts := target.parts.take (depth + 1) } : Path).toText
    match current.kind true place with
    | .ok .directory => return current
    | .ok _ => throw (.system .alreadyExists (some place))
    | .error _ => current.makeDirectory place) machine

def makeLink (machine : Machine) (target path : Text) : Except Fault Machine := do
  return machine.putEntry (← machine.vacantPlace path) (.link target)

def remove (machine : Machine) (recursively : Bool) (path : Text) : Except Fault Machine := do
  let (location, entry) ← machine.findEntry false path
  let parent := (machine.disk.entry? location.dropLast).getD default
  machine.demand .write parent path
  if entry.isDirectory && !recursively then throw (.system .isDirectory (some path))
  return { machine with disk := machine.disk.erase location }

def removeEmptyDirectory (machine : Machine) (path : Text) : Except Fault Machine := do
  let (location, entry) ← machine.findEntry false path
  unless entry.isDirectory do throw (.system .notDirectory (some path))
  unless (machine.disk.names location).isEmpty do throw (.system .notEmpty (some path))
  machine.remove true path

def within (machine : Machine) (source target : Text) : Text :=
  match machine.kind true target with
  | .ok .directory => ((Path.ofText target).child (Path.ofText source).name).toText
  | _ => target

def move (machine : Machine) (source target : Text) : Except Fault Machine := do
  let (location, _) ← machine.findEntry false source
  let found ← Lookup.find machine.disk machine.viewer false (machine.within source target)
  if location.isPrefixOf found.location then throw (.system .invalidArgument (some target))
  return { machine with disk := machine.disk.move location found.location }

def copy (machine : Machine) (source target : Text) : Except Fault Machine := do
  let bytes ← machine.content source
  let (_, entry) ← machine.findEntry true source
  let path := machine.within source target
  let (location, _) ← machine.findEntry true source
  if (machine.findEntry true path).toOption.any (·.1 = location) then
    throw (.system .alreadyExists (some path))
  let isNew := (machine.kind true path).toBool == false
  let after ← machine.write path bytes
  let (location, written) ← after.findEntry true path
  return if isNew then after.putEntry location (written.withMode entry.mode) else after

def below (machine : Machine) (location : Location) : List (Location × Entry) :=
  machine.disk.entries.filterMap fun entry =>
    if location.isPrefixOf entry.1 then some (entry.1.drop location.length, entry.2) else none

def copyTree (machine : Machine) (source target : Text) : Except Fault Machine := do
  let (location, entry) ← machine.findEntry false source
  if !entry.isDirectory then
    let path := machine.within source target
    match entry with
    | .link leadsTo => makeLink machine leadsTo path
    | _ => copy machine source target
  else
    let found ← Lookup.find machine.disk machine.viewer true (machine.within source target)
    if location.isPrefixOf found.location then
      throw (.system .invalidArgument (some target))
    let parent := (machine.disk.entry? found.location.dropLast).getD default
    machine.demand .write parent target
    return (machine.below location).foldl (fun current entry =>
      current.putEntry (found.location ++ entry.1) entry.2) machine

def changeMode (machine : Machine) (mode : Nat) (path : Text) : Except Fault Machine := do
  let (location, entry) ← machine.findEntry true path
  unless machine.privileged do throw (.system .notPermitted (some path))
  return machine.putEntry location (entry.withMode mode)

def touch (machine : Machine) (path : Text) : Except Fault Machine := do
  match machine.kind true path with
  | .ok _ => return machine
  | .error _ => return (← machine.openForWriting path).2

end GenWalk.Machine
