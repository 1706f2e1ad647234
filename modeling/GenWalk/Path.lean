import GenWalk.Text.Basic

/-!
Paths as they are named: an anchor and the parts below it. Reading a path drops empty parts and
single dots, and keeps two dots, since these may lead through a link.
-/

namespace GenWalk

/-- Where a path starts: at the working directory, at the root, or at the root as two slashes name
it. -/
inductive Anchor where
  | relative
  | root
  | doubleRoot
deriving DecidableEq, Inhabited

structure Path where
  anchor : Anchor := .relative
  parts : List Text := []
deriving DecidableEq, Inhabited

def slash : Glyph := .char '/'

def Anchor.text : Anchor → Text
  | relative => []
  | root => [slash]
  | doubleRoot => [slash, slash]

namespace Path

def anchorOf (text : Text) : Anchor :=
  match (text.takeWhile (· == slash)).length with
  | 0 => .relative
  | 2 => .doubleRoot
  | _ => .root

def ofText (text : Text) : Path where
  anchor := anchorOf text
  parts := (Text.splitOn slash text).filter fun part => part ≠ [] && part ≠ Text.ofString "."

/-- The path as it is written: single dots count, and a slash at the end asks for a directory, as a
dot behind it would. -/
def literal (text : Text) : Path :=
  let names := (Text.splitOn slash text).filter (· ≠ [])
  let isOpen := text.getLast? = some slash && !names.isEmpty
  { anchor := anchorOf text, parts := if isOpen then names ++ [Text.ofString "."] else names }

instance : Coe String Path := ⟨fun string => ofText string⟩

def toText (path : Path) : Text :=
  if path.anchor = .relative && path.parts.isEmpty then "."
  else path.anchor.text ++ Text.join [slash] path.parts

def name (path : Path) : Text := path.parts.getLastD []

def child (path : Path) (name : Text) : Path := { path with parts := path.parts ++ [name] }

def parent (path : Path) : Path := { path with parts := path.parts.dropLast }

/-- The directory that holds what the path names, where a relative path may lead out of its start. -/
def above (path : Path) : Path :=
  if path.anchor = .relative && (path.parts.isEmpty || path.name = Text.ofString "..") then
    path.child ".."
  else path.parent

def join (path other : Path) : Path :=
  if other.anchor = .relative then { path with parts := path.parts ++ other.parts } else other

/-- The parts after every pair of dots has taken away the part before it. At the root there is
nothing to take away. -/
def collapse (absolute : Bool) : List Text → List Text → List Text
  | kept, [] => kept.reverse
  | kept, part :: rest =>
    if part ≠ Text.ofString ".." then collapse absolute (part :: kept) rest
    else match kept with
      | [] => collapse absolute (if absolute then [] else [part]) rest
      | last :: others =>
        if last = Text.ofString ".." then collapse absolute (part :: kept) rest
        else collapse absolute others rest

def normalized (path : Path) : Path :=
  { path with parts := collapse (path.anchor ≠ .relative) [] path.parts }

end Path

end GenWalk
