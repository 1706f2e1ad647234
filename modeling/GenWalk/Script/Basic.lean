import GenWalk.Text.Basic

/-!
Scripts: commands with their words as they are written, before anything is put in for a reference.

The modules on scripts, and those on small programs (`Machine.Tool`), imitate a shell and its tools,
so that whole sessions with generators can be run on a machine and compared. They are no part of what
is proved: nothing is said about what a script does, and what is said of walks holds whatever their
generators do.
-/

namespace GenWalk.Script

inductive Substitute where
  | fallback
  | assign
  | replace
  | demand
deriving DecidableEq, Inhabited

structure Trim where
  atEnd : Bool
  longest : Bool
deriving DecidableEq, Inhabited

inductive Channel where
  | read
  | write
  | append
  | update
  | join
  | document
deriving DecidableEq, Inhabited

/-- What a command does with one of its channels; `Target` is what names the other end. -/
structure Redirection (Target : Type) where
  number : Nat
  channel : Channel
  target : Target
deriving Inhabited

mutual

/-- A part of a word. What is quoted is neither split nor matched against names. -/
inductive Piece where
  | text (value : Text) (quoted : Bool)
  | home
  /-- A variable. With a substitute, `orEmpty` tells whether an empty value counts as none. -/
  | variable (name : Text) (quoted : Bool) (substitute? : Option (Substitute × Bool × List Piece))
  | trimmed (name : Text) (quoted : Bool) (trim : Trim) (pattern : List Piece)
  | length (name : Text) (quoted : Bool)
  | output (body : List Command) (quoted : Bool)
  | number (expression : List Piece) (quoted : Bool)

inductive Command where
  /-- A command with its words. `linesBehind` tells how many lines of the script come after the
  one on which it starts. -/
  | simple (linesBehind : Nat) (assignments : List (Text × List Piece)) (words : List (List Piece))
      (redirections : List (Redirection (List Piece)))
  | redirected (command : Command) (redirections : List (Redirection (List Piece)))
  | forEach (name : Text) (words? : Option (List (List Piece))) (body : List Command)
  | choose (branches : List (List Command × List Command)) (otherwise : List Command)
  | loop (whileSuccess : Bool) (condition body : List Command)
  | select (subject : List Piece) (arms : List (List (List Piece) × List Command))
  | group (body : List Command)
  | enclosed (body : List Command)
  | negated (command : Command)
  | define (name : Text) (body : Command)
  | andThen (first second : Command)
  | orElse (first second : Command)
  | piped (first second : Command)
  | background (command : Command)

end

instance : Inhabited Piece := ⟨.home⟩

instance : Inhabited Command := ⟨.group []⟩

abbrev Word := List Piece

end GenWalk.Script
