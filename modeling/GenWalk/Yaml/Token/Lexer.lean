import GenWalk.Yaml.Token.Word

/-!
The tokens of a document. Indentation opens and closes collections, and a scalar becomes a key when
a colon follows it on the same line; the mark of a key is then put in before it.
-/

namespace GenWalk.Yaml

/-- A token that may turn out to start a key: where it stands among the tokens and in the text. A
key that is required must turn out to be one. -/
structure KeyCandidate where
  position : Nat
  required : Bool
  index : Nat
  line : Nat
  column : Nat
deriving Inhabited

structure Lexer where
  cursor : Cursor
  tokens : Array Token := #[]
  flowLevel : Nat := 0
  indentation : Int := -1
  outer : List Int := []
  keyAllowed : Bool := true
  /-- For each number of open brackets the token that may start a key. -/
  candidates : List (Nat × KeyCandidate) := []
  usable : Nat := 0
deriving Inhabited

abbrev Lexing (α : Type) := EStateM YamlFault Lexer α

namespace Lexing

def keyLimit : Nat := 1024

def fail : Lexing α := throw .malformed

def read (reading : Reading α) : Lexing α := fun lexer =>
  match reading lexer.cursor with
  | .ok value cursor => .ok value { lexer with cursor }
  | .error fault cursor => .error fault { lexer with cursor }

def emit (token : Token) : Lexing Unit :=
  modify fun lexer => { lexer with tokens := lexer.tokens.push token }

def allowKey (allowed : Bool) : Lexing Unit :=
  modify fun lexer => { lexer with keyAllowed := allowed }

def isStale (cursor : Cursor) (candidate : KeyCandidate) : Bool :=
  candidate.line ≠ cursor.line || candidate.index + keyLimit < cursor.index

def dropStale : Lexing Unit := do
  let lexer ← get
  if lexer.candidates.any fun entry => isStale lexer.cursor entry.2 && entry.2.required then fail
  set { lexer with candidates := lexer.candidates.filter (!isStale lexer.cursor ·.2) }

def noteUsable : Lexing Unit := modify fun lexer =>
  let positions := (lexer.candidates.filter (!isStale lexer.cursor ·.2)).map (·.2.position)
  { lexer with usable := positions.foldl min lexer.tokens.size }

def takeCandidate : Lexing (Option KeyCandidate) := do
  let lexer ← get
  set { lexer with candidates := lexer.candidates.filter fun entry => entry.1 ≠ lexer.flowLevel }
  return lexer.candidates.lookup lexer.flowLevel

def dropCandidate : Lexing Unit := do
  if (← takeCandidate).any (·.required) then fail

def noteCandidate : Lexing Unit := do
  let lexer ← get
  if lexer.keyAllowed then
    let candidate : KeyCandidate := {
      position := lexer.tokens.size
      required := lexer.flowLevel = 0 && lexer.indentation = lexer.cursor.column
      index := lexer.cursor.index
      line := lexer.cursor.line
      column := lexer.cursor.column }
    dropCandidate
    modify fun lexer => { lexer with
      candidates := (lexer.flowLevel, candidate) :: lexer.candidates }

/-- Closes the collections that are indented further than the column. Brackets take no heed of
indentation. -/
def closeTo (column : Int) : Lexing Unit := modify fun lexer =>
  if lexer.flowLevel ≠ 0 then lexer else close lexer lexer.indentation lexer.outer
where
  close (lexer : Lexer) (indentation : Int) : List Int → Lexer
    | [] => { lexer with indentation, outer := [] }
    | next :: further =>
      if column < indentation then
        close { lexer with tokens := lexer.tokens.push .blockEnd } next further
      else { lexer with indentation, outer := next :: further }

def indentTo (column : Nat) : Lexing Bool := do
  let lexer ← get
  if lexer.indentation < column then
    set { lexer with indentation := column, outer := lexer.indentation :: lexer.outer }
    return true
  return false

def skipToToken : (fuel : Nat) → Lexing Unit
  | 0 => return
  | fuel + 1 => do
    read Reading.skipSpaces
    read Reading.skipComment
    if (← read Reading.takeBreak?).isSome then
      if (← get).flowLevel = 0 then allowKey true
      skipToToken fuel

def skipMark : Lexing Unit := do
  if (← get).cursor.index = 0 && (← get).cursor.current = some '\uFEFF' then read (Reading.skip 1)

def closeAll : Lexing Unit := do
  closeTo (-1)
  dropCandidate
  allowKey false

def documentMark (token : Token) : Lexing Unit := do
  closeAll
  read (Reading.skip 3)
  emit token

def flowStart (token : Token) : Lexing Unit := do
  noteCandidate
  modify fun lexer => { lexer with flowLevel := lexer.flowLevel + 1 }
  allowKey true
  read (Reading.skip 1)
  emit token

/-- A closing bracket that nothing has opened is left to the grammar, which refuses it. -/
def flowEnd (token : Token) : Lexing Unit := do
  dropCandidate
  modify fun lexer => { lexer with flowLevel := lexer.flowLevel - 1 }
  allowKey false
  read (Reading.skip 1)
  emit token

def flowEntry : Lexing Unit := do
  allowKey true
  dropCandidate
  read (Reading.skip 1)
  emit .flowEntry

def blockEntry : Lexing Unit := do
  let lexer ← get
  if lexer.flowLevel = 0 then
    unless lexer.keyAllowed do fail
    if ← indentTo lexer.cursor.column then emit .blockSequenceStart
  allowKey true
  dropCandidate
  read (Reading.skip 1)
  emit .blockEntry

def explicitKey : Lexing Unit := do
  let lexer ← get
  if lexer.flowLevel = 0 then
    unless lexer.keyAllowed do fail
    if ← indentTo lexer.cursor.column then emit .blockMappingStart
  allowKey (lexer.flowLevel = 0)
  dropCandidate
  read (Reading.skip 1)
  emit .key

def insertAt (position : Nat) (token : Token) : Lexing Unit :=
  modify fun lexer =>
    let before := lexer.tokens.extract 0 position
    let behind := lexer.tokens.extract position lexer.tokens.size
    { lexer with tokens := before.push token ++ behind }

def valueMark : Lexing Unit := do
  let lexer ← get
  match ← takeCandidate with
  | some candidate =>
    insertAt candidate.position .key
    if lexer.flowLevel = 0 then
      if ← indentTo candidate.column then insertAt candidate.position .blockMappingStart
    allowKey false
  | none =>
    if lexer.flowLevel = 0 then
      unless lexer.keyAllowed do fail
      if ← indentTo lexer.cursor.column then emit .blockMappingStart
    allowKey (lexer.flowLevel = 0)
    dropCandidate
  read (Reading.skip 1)
  emit .value

def word (reading : Reading Token) : Lexing Unit := do
  noteCandidate
  allowKey false
  emit (← read reading)

def blockScalar (isFolded : Bool) : Lexing Unit := do
  allowKey true
  dropCandidate
  let points ← read (Reading.blockScalar isFolded (← get).indentation)
  emit (.scalar (.ofCodePoints points) false)

def plainScalar : Lexing Unit := do
  noteCandidate
  allowKey false
  let lexer ← get
  let (points, broken) ← read <|
    Reading.plainScalar (lexer.flowLevel ≠ 0) (lexer.indentation + 1)
      (lexer.cursor.rest.length + 1) [] false
  if broken then allowKey true
  emit (.scalar (.ofCodePoints points) true)

def quotedScalar (double : Bool) : Lexing Unit :=
  word ((fun points => .scalar (.ofCodePoints points) false) <$> Reading.quotedScalar double)

def startsPlain (inFlow : Bool) (character : Char) (next : Option Char) : Bool :=
  !(isSpaceOrTab character || isBreak character ||
      "-?:,[]\x7b\x7d#&*!|>\x27\"%@\x60".toList.contains character) ||
    (!endsWord next && (character = '-' || (!inFlow && (character = '?' || character = ':'))))

def token (character : Char) : Lexing Unit := do
  let lexer ← get
  let cursor := lexer.cursor
  let inFlow := lexer.flowLevel ≠ 0
  let next := cursor.peek 1
  let atMark := cursor.column = 0 && cursor.atSeparator
  if cursor.column = 0 && character = '%' then
    closeAll
    emit (.directive (← read Reading.directive))
  else if atMark && character = '-' then documentMark .documentStart
  else if atMark && character = '.' then documentMark .documentEnd
  else if character = '[' then flowStart .flowSequenceStart
  else if character = '\x7b' then flowStart .flowMappingStart
  else if character = ']' then flowEnd .flowSequenceEnd
  else if character = '\x7d' then flowEnd .flowMappingEnd
  else if character = ',' then flowEntry
  else if character = '-' && endsWord next then blockEntry
  else if character = '?' && (inFlow || endsWord next) then explicitKey
  else if character = ':' && (inFlow || endsWord next) then valueMark
  else if character = '*' then word (Token.alias <$> Reading.anchorName)
  else if character = '&' then word (Token.anchor <$> Reading.anchorName)
  else if character = '!' then word (Token.tag <$> Reading.tagName)
  else if character = '|' && !inFlow then blockScalar false
  else if character = '>' && !inFlow then blockScalar true
  else if character = '\x27' then quotedScalar false
  else if character = '"' then quotedScalar true
  else if startsPlain inFlow character next then plainScalar
  else fail

def tokens : (fuel : Nat) → Lexing Unit
  | 0 => fail
  | fuel + 1 => do
    noteUsable
    skipMark
    skipToToken ((← get).cursor.rest.length + 1)
    dropStale
    closeTo (← get).cursor.column
    match (← get).cursor.current with
    | none => closeAll
    | some character =>
      token character
      tokens fuel

end Lexing

def Token.ofCharacters (characters : List Char) : List Token × Option TokenBreak :=
  match Lexing.tokens (characters.length + 1) { cursor := { rest := characters } } with
  | .ok _ lexer => (lexer.tokens.toList, none)
  | .error fault lexer => (lexer.tokens.toList, some { fault, usable := lexer.usable })

end GenWalk.Yaml
