import GenWalk.Machine.Tool.Basic

/-!
Listing directories: the names in each, in order, with what the options add to them.
-/

namespace GenWalk.Machine.Tool

namespace Listing

def table : OptionTable where
  letters := "aAdrFpR1UfhntSNq"
  long := [("all", 'a'), ("almost-all", 'A'), ("directory", 'd'), ("reverse", 'r'),
    ("classify", 'F'), ("recursive", 'R')]

def suffix (options : Options) (entry : Entry) : Text :=
  if entry.isDirectory then if options.has 'F' || options.has 'p' then "/" else ""
  else if !options.has 'F' then ""
  else match entry with
    | .link _ => "@"
    | .file mode _ => if mode / 64 % 2 = 1 || mode / 8 % 2 = 1 || mode % 2 = 1 then "*" else ""
    | _ => ""

def shownNames (options : Options) (machine : Machine) (path : Text) :
    Except Fault (List Text) := do
  let names ← machine.names path
  let isHidden (name : Text) : Bool := name.head? = some (.char '.')
  let seen := if options.has 'a' || options.has 'A' then names
    else names.filter (!isHidden ·)
  let sorted := Text.sorted (if options.has 'a' then ".." :: "." :: seen else seen)
  return if options.has 'r' then sorted.reverse else sorted

def childPath (path name : Text) : Text :=
  if path.getLast? = some slash then path ++ name else path ++ slash :: name

def shown (options : Options) (machine : Machine) (path name : Text) : Text :=
  match machine.findEntry false path with
  | .ok (_, entry) => name ++ suffix options entry
  | .error _ => name

def blocks (options : Options) (machine : Machine) (headed : Bool) : (depth : Nat) → (path : Text) →
    List (List Text)
  | 0, _ => []
  | depth + 1, path =>
    let names := (shownNames options machine path).toOption.getD []
    let lines := names.map fun name => shown options machine (childPath path name) name
    let block := if headed then (path ++ [.char ':']) :: lines else lines
    let inner := names.filter fun name => name ≠ Text.ofString "." && name ≠ Text.ofString ".." &&
      (machine.kind false (childPath path name)).toOption = some .directory
    block :: if options.has 'R' then
      inner.flatMap fun name => blocks options machine headed depth (childPath path name)
      else []

def isListed (options : Options) (machine : Machine) (path : Text) : Bool :=
  !options.has 'd' && (machine.kind (!options.has 'F') path).toOption = some .directory

def refusal? (options : Options) (machine : Machine) (path : Text) : Option Bytes :=
  match machine.findEntry false path with
  | .error fault => some (failure "ls" "cannot access" path fault)
  | .ok _ =>
    if isListed options machine path then match machine.names path with
      | .error fault => some (failure "ls" "cannot open directory" path fault)
      | .ok _ => none
    else none

def run (options : Options) : Tool := fun call =>
  let machine := call.machine
  let paths := if options.operands.isEmpty then [Text.ofString "."]
    else Text.sorted options.operands
  let paths := if options.has 'r' then paths.reverse else paths
  let refusals := paths.map (refusal? options machine)
  let known := paths.filter fun path => (refusal? options machine path).isNone
  let (directories, files) := known.partition (isListed options machine)
  let headed := 1 < paths.length || options.has 'R'
  let listed := directories.flatMap fun path =>
    blocks options machine headed (machine.disk.entries.length + 1) path
  let all := if files.isEmpty then listed
    else (files.map fun path => shown options machine path path) :: listed
  { code := if refusals.any Option.isSome then 2 else 0
    output := unlines (List.intercalate [[]] all)
    complaints := (refusals.filterMap id).flatten
    machine }

end Listing

def list : Tool := withOptions Listing.table 2 Listing.run

end GenWalk.Machine.Tool
