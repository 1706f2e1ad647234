import GenWalk.Environment
import GenWalk.Text.Scan

/-!
Templates: text in which references to variables stand. A template is split once, from left to
right, into segments; `segments` is that split and `expand` puts the values in. A value that has
been put in is not looked at again.
-/

namespace GenWalk.Template

inductive Segment where
  | braced (name : Text)
  /-- A dollar and an opening brace that nothing closes. -/
  | unclosed
  | special (name : Char)
  | named (name : Text)
  | literal (glyph : Glyph)
deriving DecidableEq, Inhabited

def dollar : Glyph := .char '$'

def isSpecial (character : Char) : Bool := "*#$@!?-0123456789".toList.contains character

def isNameStart (character : Char) : Bool := character.isAlpha || character = '_'

def isNamePart (character : Char) : Bool := character.isAlphanum || character = '_'

namespace Segment

def source : Segment → Text
  | braced name => [dollar, .char '{'] ++ name ++ [.char '}']
  | unclosed => [dollar, .char '{']
  | special name => [dollar, .char name]
  | named name => dollar :: name
  | literal glyph => [glyph]

/-- What stands in place of the segment: names without a value vanish. -/
def value (environment : Environment) : Segment → Text
  | braced name => (environment.get? name).getD []
  | unclosed => []
  | special name => (environment.get? [.char name]).getD []
  | named name => (environment.get? name).getD []
  | literal glyph => [glyph]

end Segment

def referenceAt? : Text → Option Segment
  | .char '{' :: rest =>
    some (if rest.contains (.char '}') then .braced (rest.takeWhile (· ≠ .char '}')) else .unclosed)
  | .char character :: rest =>
    if isSpecial character then some (.special character)
    else if isNameStart character then
      some (.named (.char character :: rest.takeWhile (·.satisfies isNamePart)))
    else none
  | _ => none

def step (glyph : Glyph) (rest : Text) : Segment × Nat :=
  match if glyph = dollar then referenceAt? rest else none with
  | some reference => (reference, reference.source.length - 1)
  | none => (.literal glyph, 0)

def segments (template : Text) : List Segment := scan step template

def expand (template : Text) (environment : Environment) : Text :=
  (segments template).flatMap (·.value environment)

end GenWalk.Template
