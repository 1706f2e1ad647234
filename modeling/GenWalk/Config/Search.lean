import GenWalk.Host

/-!
The search for a configuration file: from a directory upwards to the root, the nearest file first.
-/

namespace GenWalk.Config

def fileName : Text := "helmgen.yml"

def searchLimit : Nat := 20

variable {World : Type}

def searchUp (host : Host World) : (directories : Nat) → (directory : Path) →
    Query World (Option Path)
  | 0, _ => pure none
  | directories + 1, directory => do
    let candidate := directory.child fileName
    if ← host.isFile candidate then return some candidate
    if directory.parts.isEmpty then return none
    searchUp host directories directory.parent

def find (host : Host World) (start : Path) : Query World (Option Path) := do
  searchUp host searchLimit (← host.resolve start)

end GenWalk.Config
