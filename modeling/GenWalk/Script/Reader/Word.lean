import GenWalk.Numeral
import GenWalk.Script.Basic
import GenWalk.Template

/-!
Reading the words of scripts: quotes, references and what is written inside them, and the documents
that stand in a script for a command to read.
-/

namespace GenWalk.Script

abbrev Reading (α : Type) := StateT Text Option α

namespace Reading

def fail : Reading α := fun _ => none

def peek : Reading (Option Glyph) := do return (← get).head?

def startsWith (start : String) : Reading Bool := do
  return (Text.ofString start).isPrefixOf (← get)

def skip (count : Nat) : Reading Unit := modify (·.drop count)

def takes (mark : String) : Reading Bool := do
  if ← startsWith mark then
    skip mark.length
    return true
  return false

def expect (mark : String) : Reading Unit := do
  unless ← takes mark do fail

def upTo (glyph : Glyph) : Reading Text := do
  let (before, rest) := Text.spanUntil (· == glyph) (← get)
  if rest.isEmpty then fail
  set (rest.drop 1)
  return before

def skipBlanks : (fuel : Nat) → Reading Unit
  | 0 => return
  | fuel + 1 => do
    match ← get with
    | .char ' ' :: rest | .char '\t' :: rest => set rest; skipBlanks fuel
    | .char '\\' :: .char '\n' :: rest => set rest; skipBlanks fuel
    | .char '#' :: rest => set (rest.dropWhile (· ≠ .char '\n'))
    | _ => return

def blanks : Reading Unit := do skipBlanks (← get).length

def isOperator (glyph : Glyph) : Bool := " \t\n;&|<>()".toList.any (Glyph.char · = glyph)

/-- How far a line goes before its end; a line end in quotes is none. `quote` is the mark that is
open, and `isShielded` tells whether a backslash stands before the glyph. -/
def lineLength : (quote : Option Glyph) → (isShielded : Bool) → Text → Nat
  | _, _, [] => 0
  | quote, true, _ :: rest => lineLength quote false rest + 1
  | some mark, false, glyph :: rest =>
    let shields := glyph = .char '\\' && mark = .char '"'
    lineLength (if glyph = mark then none else some mark) shields rest + 1
  | none, false, glyph :: rest =>
    if glyph = .char '\n' then 0
    else
      let quote := if glyph = .char '\x27' || glyph = .char '"' then some glyph else none
      lineLength quote (glyph = .char '\\') rest + 1

def closingBrackets : (depth : Nat) → Text → Option Nat
  | _, [] => none
  | depth, glyph :: rest =>
    if glyph = .char '(' then (closingBrackets (depth + 1) rest).map (· + 1)
    else if glyph = .char ')' then match depth with
      | 0 => if rest.head? = some (.char ')') then some 0 else none
      | depth + 1 => (closingBrackets depth rest).map (· + 1)
    else (closingBrackets depth rest).map (· + 1)

/-- A script between backquotes, behind the opening one. A backslash shields a backquote, a dollar
and another backslash, and between double quotes a double quote too. -/
def backquoted (inQuotes : Bool) : (fuel : Nat) → Reading Text
  | 0 => fail
  | fuel + 1 => do
    match ← get with
    | [] => fail
    | .char '\x60' :: rest => set rest; return []
    | .char '\\' :: glyph :: rest =>
      set rest
      let isShielded := glyph = .char '\x60' || glyph = .char '$' || glyph = .char '\\' ||
        (inQuotes && glyph = .char '"')
      let more ← backquoted inQuotes fuel
      return if isShielded then glyph :: more else .char '\\' :: glyph :: more
    | glyph :: rest => set rest; return glyph :: (← backquoted inQuotes fuel)

def name : Reading Text := do
  let text ← get
  let word := text.takeWhile (·.satisfies Template.isNamePart)
  skip word.length
  return word

def substitute : Glyph → Option Substitute
  | .char '-' => some .fallback
  | .char '=' => some .assign
  | .char '+' => some .replace
  | .char '?' => some .demand
  | _ => none

def trim? : Reading (Option Trim) := do
  if ← takes "%%" then return some { atEnd := true, longest := true }
  if ← takes "%" then return some { atEnd := true, longest := false }
  if ← takes "##" then return some { atEnd := false, longest := true }
  if ← takes "#" then return some { atEnd := false, longest := false }
  return none

def onlyParameters : Word → Bool
  | [.variable [.char '@'] _ none] => true
  | _ => false

def wholeScript (script : Reading (List Command)) (text : Text) : Reading (List Command) :=
  match script.run text with
  | some (body, []) => return body
  | _ => fail

def isShieldedInQuotes (glyph : Glyph) : Bool :=
  glyph = .char '$' || glyph = .char '"' || glyph = .char '\\' || glyph = .char '\x60'

mutual

def reference (script : Reading (List Command)) (quoted : Bool) : (fuel : Nat) → Reading Piece
  | 0 => fail
  | fuel + 1 => do
    match ← get with
    | .char '(' :: .char '(' :: rest =>
      match closingBrackets 0 rest with
      | none => fail
      | some length =>
        match (literalPieces script fuel).run (rest.take length) with
        | none => fail
        | some (expression, _) =>
          set (rest.drop (length + 2))
          return .number expression quoted
    | .char '(' :: rest =>
      set rest
      let body ← script
      expect ")"
      return .output body quoted
    | .char '\x7b' :: rest =>
      set rest
      bracedReference script quoted fuel
    | .char first :: rest =>
      if Template.isNameStart first then return .variable (← name) quoted none
      else if first.isDigit || "*#$@!?-".toList.contains first then
        set rest
        return .variable [.char first] quoted none
      else return .text [.char '$'] quoted
    | _ => return .text [.char '$'] quoted

def bracedReference (script : Reading (List Command)) (quoted : Bool) : (fuel : Nat) → Reading Piece
  | 0 => fail
  | fuel + 1 => do
    let isLength := (← startsWith "#") && !(← startsWith "#\x7d")
    if isLength then skip 1
    let text ← get
    let known ← match text with
      | .char first :: _ =>
        if Template.isNameStart first then name
        else if first.isDigit then do
          let digits := text.takeWhile (·.satisfies Char.isDigit)
          skip digits.length
          pure digits
        else do
          unless "*#$@!?-".toList.contains first do fail
          skip 1
          pure [.char first]
      | _ => fail
    if isLength then
      expect "\x7d"
      return .length known quoted
    if ← takes "\x7d" then return .variable known quoted none
    if let some trim ← trim? then
      let pattern ← pieces script (fun glyph => glyph == .char '\x7d') false fuel
      expect "\x7d"
      return .trimmed known quoted trim pattern
    let orEmpty ← takes ":"
    match (← peek).bind substitute with
    | none => fail
    | some kind =>
      skip 1
      let word ← pieces script (fun glyph => glyph == .char '\x7d') quoted fuel
      expect "\x7d"
      return .variable known quoted (some (kind, orEmpty, word))

def quotedPieces (script : Reading (List Command)) : (fuel : Nat) → Reading Word
  | 0 => fail
  | fuel + 1 => do
    match ← get with
    | [] => fail
    | .char '"' :: rest => set rest; return []
    | .char '$' :: rest =>
      set rest
      let piece ← reference script true fuel
      return piece :: (← quotedPieces script fuel)
    | .char '\x60' :: rest =>
      set rest
      let body ← wholeScript script (← backquoted true (rest.length + 1))
      return Piece.output body true :: (← quotedPieces script fuel)
    | .char '\\' :: .char '\n' :: rest => set rest; quotedPieces script fuel
    | .char '\\' :: glyph :: rest =>
      set rest
      let text := if isShieldedInQuotes glyph then [glyph] else [.char '\\', glyph]
      return Piece.text text true :: (← quotedPieces script fuel)
    | glyph :: rest => set rest; return Piece.text [glyph] true :: (← quotedPieces script fuel)

def literalPieces (script : Reading (List Command)) : (fuel : Nat) → Reading Word
  | 0 => fail
  | fuel + 1 => do
    match ← get with
    | [] => return []
    | .char '$' :: rest =>
      set rest
      let piece ← reference script true fuel
      return piece :: (← literalPieces script fuel)
    | .char '\x60' :: rest =>
      set rest
      let body ← wholeScript script (← backquoted false (rest.length + 1))
      return Piece.output body true :: (← literalPieces script fuel)
    | .char '\\' :: .char '\n' :: rest => set rest; literalPieces script fuel
    | .char '\\' :: glyph :: rest =>
      set rest
      let isShielded := isShieldedInQuotes glyph && glyph ≠ .char '"'
      let text := if isShielded then [glyph] else [.char '\\', glyph]
      return Piece.text text true :: (← literalPieces script fuel)
    | glyph :: rest => set rest; return Piece.text [glyph] true :: (← literalPieces script fuel)

def pieces (script : Reading (List Command)) (stops : Glyph → Bool) (quoted : Bool) :
    (fuel : Nat) → Reading Word
  | 0 => fail
  | fuel + 1 => do
    match ← get with
    | [] => return []
    | .char '\x27' :: rest =>
      if quoted then
        set rest
        return Piece.text [.char '\x27'] true :: (← pieces script stops quoted fuel)
      set rest
      let text ← upTo (.char '\x27')
      return Piece.text text true :: (← pieces script stops quoted fuel)
    | .char '"' :: rest =>
      set rest
      let inner ← quotedPieces script fuel
      let rest ← pieces script stops quoted fuel
      return if onlyParameters inner then inner ++ rest else Piece.text [] true :: inner ++ rest
    | .char '$' :: rest =>
      set rest
      let piece ← reference script quoted fuel
      return piece :: (← pieces script stops quoted fuel)
    | .char '\x60' :: rest =>
      set rest
      let body ← wholeScript script (← backquoted quoted (rest.length + 1))
      return Piece.output body quoted :: (← pieces script stops quoted fuel)
    | .char '\\' :: .char '\n' :: rest => set rest; pieces script stops quoted fuel
    | .char '\\' :: glyph :: rest =>
      set rest
      let isShielded := !quoted || isShieldedInQuotes glyph || glyph = .char '\x7d'
      let text := if isShielded then [glyph] else [.char '\\', glyph]
      return Piece.text text true :: (← pieces script stops quoted fuel)
    | glyph :: rest =>
      if stops glyph then return []
      set rest
      return Piece.text [glyph] quoted :: (← pieces script stops quoted fuel)

end

def withHome (word : Word) : Word :=
  match word with
  | .text [.char '~'] false :: rest => match rest with
    | [] | .text [.char '/'] false :: _ => .home :: rest
    | _ => word
  | _ => word

def word? (script : Reading (List Command)) : Reading (Option Word) := do
  blanks
  match ← peek with
  | none => return none
  | some glyph =>
    if isOperator glyph then return none
    return some (withHome (← pieces script isOperator false ((← get).length + 1)))

def word (script : Reading (List Command)) : Reading Word := do
  match ← word? script with
  | some word => return word
  | none => fail

def plainText? (word : Word) : Option Text :=
  (word.mapM fun piece => match piece with
    | Piece.text value false => some value
    | _ => none).map List.flatten

def unquoted (word : Word) : Text × Bool :=
  (word.flatMap fun piece => match piece with
    | .text value _ => value
    | _ => [],
  word.any fun piece => match piece with
    | .text _ quoted => quoted
    | _ => false)

def documentLines (ending : Text) (indented : Bool) : (fuel : Nat) → Text → Text × Text
  | 0, text => ([], text)
  | fuel + 1, text =>
    if text.isEmpty then ([], [])
    else
      let (line, rest) := Text.spanUntil (· == .char '\n') text
      let line := if indented then line.dropWhile (· == .char '\t') else line
      if line = ending then ([], rest.drop 1)
      else
        let (lines, behind) := documentLines ending indented fuel (rest.drop 1)
        (line ++ .char '\n' :: lines, behind)

/-- Takes the document that starts behind the current line out of the script. Unless its ending is
quoted, references in it are looked up. -/
def document (script : Reading (List Command)) (indented : Bool) : Reading Word := do
  let (ending, isQuoted) := unquoted (← word script)
  let text ← get
  let length := lineLength none false text
  let (body, behind) := documentLines ending indented text.length (text.drop (length + 1))
  set (text.take (length + 1) ++ behind)
  if isQuoted then return [.text body true]
  match (literalPieces script (body.length + 1)).run body with
  | some (pieces, _) => return .text [] true :: pieces
  | none => fail

def redirection? (script : Reading (List Command)) : Reading (Option (Redirection Word)) := do
  blanks
  let text ← get
  let number? := text.head?.bind (Numeral.digit? 10)
  let size := if number?.isSome then 1 else 0
  let (channel, width, usual) ← match text.drop size with
    | .char '>' :: .char '>' :: _ => pure (Channel.append, 2, 1)
    | .char '>' :: .char '&' :: _ => pure (Channel.join, 2, 1)
    | .char '>' :: .char '|' :: _ => pure (Channel.write, 2, 1)
    | .char '>' :: _ => pure (Channel.write, 1, 1)
    | .char '<' :: .char '<' :: .char '-' :: _ => pure (Channel.document, 3, 0)
    | .char '<' :: .char '<' :: _ => pure (Channel.document, 2, 0)
    | .char '<' :: .char '&' :: _ => pure (Channel.join, 2, 0)
    | .char '<' :: .char '>' :: _ => pure (Channel.update, 2, 0)
    | .char '<' :: _ => pure (Channel.read, 1, 0)
    | _ => return none
  skip (size + width)
  let target ← if channel = .document then document script (width = 3) else word script
  return some { number := number?.getD usual, channel, target }

end Reading

end GenWalk.Script
