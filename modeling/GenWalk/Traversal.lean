import GenWalk.Journey

/-!
The traversal of a tree: every entry below a root that is no directory is visited, depth first and
in the order of names. Directories with certain names are left out, and no link is followed.
-/

namespace GenWalk

inductive Visit where
  | enter
  | skip
deriving DecidableEq, Inhabited

def Visit.of (prefixes : List Text) (path : Path) : Visit :=
  if prefixes.any path.name.startsWith then skip else enter

namespace Traversal

def source : Text := "helmgen.core.engine.walker"

/-- No path is longer than this, so that no tree is deeper. The traversal calls itself once for each
directory on the way down. Whatever carries it out may put a lower limit on calls within calls; where
a traversal is said to end, or a walk to have a result, that limit is taken not to be reached. -/
def depthLimit : Nat := 4096

variable {World Gathered : Type}

/-- Visits what is below a directory, at most `depth` directories further down. Deeper ones cannot
be named any more. -/
def below (host : Host World) (prefixes : List Text) (visit : Path → Journey World Gathered Unit) :
    (depth : Nat) → (directory : Path) → Journey World Gathered Unit
  | 0, directory => throw (.refused (.system .nameTooLong (some directory.toText)))
  | depth + 1, directory => do
    let names ← Journey.ask (host.names directory)
    (Text.sorted names).forM fun name => do
      let path := directory.child name
      match ← Journey.ask (host.kind path) with
      | .directory =>
        match Visit.of prefixes path with
        | .skip => Journey.note host Level.debug source ("Skipping directory " ++ path.toText)
        | .enter => below host prefixes visit depth path
      | .link =>
        unless ← Journey.ask (host.isDirectory path) do
          visit path
      | _ => visit path

def run (host : Host World) (prefixes : List Text) (visit : Path → Journey World Gathered Unit)
    (root : Path) : Journey World Gathered Unit := do
  match ← Journey.ask (host.kind root) with
  | .directory => below host prefixes visit depthLimit root
  | .link =>
    if ← Journey.ask (host.isDirectory root) then
      Journey.note host Level.debug source
        ("Not following symlinked directory " ++ root.toText)
    else visit root
  | _ => visit root

def collect (path : Path) : Journey World (List Path) Unit := Journey.gather (path :: ·)

/-- The files that a traversal yields, in order, and what ended it early, if anything did. -/
def files (host : Host World) (prefixes : List Text) (root : Path) (world : World) :
    (List Path × Option Interruption) × World :=
  match run host prefixes collect root (world, []) with
  | .ok _ (after, found) => ((found.reverse, none), after)
  | .error interruption (after, found) => ((found.reverse, some interruption), after)

end Traversal

end GenWalk
