import GenWalk.Yaml.Fault

/-!
A cursor in a document: the characters that are still to be read and the position of the next one,
with the few ways of moving it forward.
-/

namespace GenWalk.Yaml

structure Cursor where
  rest : List Char
  index : Nat := 0
  line : Nat := 0
  column : Nat := 0
deriving Inhabited

def isBreak (character : Char) : Bool :=
  character = '\n' || character = '\r' || character = '\x85' || character = '\u2028' ||
    character = '\u2029'

def isSpaceOrTab (character : Char) : Bool := character = ' ' || character = '\t'

def endsLine (character : Option Char) : Bool := character.all isBreak

def endsWord (character : Option Char) : Bool :=
  character.all fun character => isSpaceOrTab character || isBreak character

def endsToken (character : Option Char) : Bool :=
  character.all fun character => character = ' ' || isBreak character

def isNameCharacter (character : Char) : Bool :=
  character.isAlphanum || character = '-' || character = '_'

namespace Cursor

def peek (cursor : Cursor) (offset : Nat) : Option Char := cursor.rest[offset]?

def current (cursor : Cursor) : Option Char := cursor.rest.head?

def step (cursor : Cursor) : Cursor :=
  match cursor.rest with
  | [] => cursor
  | character :: rest =>
    if isBreak character then
      { rest, index := cursor.index + 1, line := cursor.line + 1, column := 0 }
    else
      { rest, index := cursor.index + 1, line := cursor.line
        column := if character = '\uFEFF' then cursor.column else cursor.column + 1 }

def forward (cursor : Cursor) : Nat → Cursor
  | 0 => cursor
  | count + 1 => cursor.step.forward count

def atSeparator (cursor : Cursor) : Bool :=
  let start := cursor.rest.take 3
  (start = ['-', '-', '-'] || start = ['.', '.', '.']) && endsWord (cursor.peek 3)

end Cursor

abbrev Reading (α : Type) := EStateM YamlFault Cursor α

namespace Reading

def fail : Reading α := throw .malformed

def current : Reading (Option Char) := return (← get).current

def skip (count : Nat) : Reading Unit := modify (·.forward count)

def takeWhile (property : Char → Bool) : Reading (List Char) := do
  let taken := (← get).rest.takeWhile property
  skip taken.length
  return taken

/-- Takes a line break, if the line ends here, and answers what it counts as: the two separators of
Unicode stay themselves, and all others are one new line. -/
def takeBreak? : Reading (Option Char) := do
  match (← get).rest with
  | '\r' :: '\n' :: _ => skip 2; return some '\n'
  | character :: _ =>
    if !isBreak character then return none
    skip 1
    return some (if character = '\u2028' || character = '\u2029' then character else '\n')
  | [] => return none

def skipSpaces : Reading Unit := do discard (takeWhile (· = ' '))

def skipComment : Reading Unit := do
  if (← current) = some '#' then discard (takeWhile (!isBreak ·))

def skipToLineEnd : Reading Unit := do
  skipSpaces
  skipComment
  unless endsLine (← current) do fail
  discard takeBreak?

end Reading

end GenWalk.Yaml
