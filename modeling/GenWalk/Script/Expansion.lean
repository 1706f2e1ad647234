import GenWalk.Script.Pattern
import GenWalk.Script.Shell

/-!
What becomes of a word when its references are replaced: it is parted at separators that were put
in, and patterns in it become the names that fit them. A word is a list of marks until it is parted.
-/

namespace GenWalk.Script

/-- A part of an expanded word. -/
inductive Mark where
  | given (value : Glyph) (quoted : Bool)
  | inserted (value : Glyph)
  | edge (quoted : Bool)
  | quotes
deriving DecidableEq

namespace Mark

def ofQuoted (text : Text) : List Mark := .quotes :: text.map (.given · true)

def ofValue (quoted : Bool) (text : Text) : List Mark :=
  if quoted then text.map (.given · true) else text.map .inserted

def ofParameters (quoted : Bool) (parameters : List Text) : List Mark :=
  List.intercalate [edge quoted] (parameters.map fun parameter =>
    if quoted then ofQuoted parameter else ofValue false parameter)

def loosened (marks : List Mark) : List Mark :=
  marks.map fun mark => match mark with
    | given value false => inserted value
    | other => other

def marked (joint : Text) (marks : List Mark) : List Marked :=
  marks.flatMap fun mark => match mark with
    | given value quoted => [(value, quoted)]
    | inserted value => [(value, false)]
    | edge quoted => joint.map (·, quoted)
    | quotes => []

def text (joint : Text) (marks : List Mark) : Text := (marked joint marks).map Prod.fst

/-! ### Parting words -/

inductive Role where
  | part (glyphs : List Marked)
  | blank
  | divider
  | cut

def role (separators : Text) : Mark → Role
  | given value quoted => .part [(value, quoted)]
  | quotes => .part []
  | edge true => .cut
  | edge false => .blank
  | inserted value =>
    if !separators.contains value then .part [(value, false)]
    else if Shell.usualSeparators.contains value then .blank
    else .divider

/-- Where the parting stands. -/
inductive Standing where
  | inside (word : List Marked)
  /-- Before a word; a divider may still belong to the end of the last one. -/
  | between (absorbs : Bool)

def wordsFrom (separators : Text) : Standing → List Mark → List (List Marked)
  | .inside word, [] => [word]
  | .between _, [] => []
  | .inside word, mark :: rest => match role separators mark with
    | .part glyphs => wordsFrom separators (.inside (word ++ glyphs)) rest
    | .blank => word :: wordsFrom separators (.between true) rest
    | .divider | .cut => word :: wordsFrom separators (.between false) rest
  | .between absorbs, mark :: rest => match role separators mark with
    | .part glyphs => wordsFrom separators (.inside glyphs) rest
    | .blank => wordsFrom separators (.between absorbs) rest
    | .divider =>
      if absorbs then wordsFrom separators (.between false) rest
      else [] :: wordsFrom separators (.between false) rest
    | .cut => wordsFrom separators (.between false) rest

def words (separators : Text) (marks : List Mark) : List (List Marked) :=
  wordsFrom separators (.between false) marks

end Mark

/-! ### Names that fit -/

def matchingPaths (machine : Machine) (word : List Marked) : List Text :=
  let parts := (word.splitOnP (·.1 == slash)).map fun part => (part, Pattern.ofMarked part)
  let extend (starts : List Text) (entry : List Marked × List Pattern) : List Text :=
    let (part, pattern) := entry
    starts.flatMap fun start =>
      if !Pattern.isOpen pattern then [start ++ part.map Prod.fst]
      else
        let directory := if start.isEmpty then Text.ofString "." else start
        let names := (machine.names directory).toOption.getD []
        let isHidden := pattern.head? = some (.exactly 0x2E)
        let names := if isHidden then Text.ofString "." :: Text.ofString ".." :: names else names
        (names.filter fun name => Pattern.fits pattern name &&
          (name.head? ≠ some (.char '.') || isHidden)).map (start ++ ·)
  match parts with
  | [] => []
  | first :: others =>
    let found := others.foldl (fun starts part =>
      extend (starts.map (· ++ [slash])) part) (extend [[]] first)
    Text.sorted (found.filter fun path => (machine.kind false path).toBool)

def spread (machine : Machine) (word : List Marked) : List Text :=
  let plain := [word.map Prod.fst]
  if Pattern.isOpen (Pattern.ofMarked word) then
    match matchingPaths machine word with
    | [] => plain
    | paths => paths
  else plain

end GenWalk.Script
