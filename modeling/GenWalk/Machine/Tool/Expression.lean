import GenWalk.Numeral.Leading
import GenWalk.Text.ByteRange

/-!
Regular expressions in their basic and their extended form, over texts with a glyph for each byte.
Of all that fits from a place on, the longest part counts, and the first place where something fits.
-/

namespace GenWalk.Machine

inductive Expression where
  | single (value : Glyph)
  | any
  | oneOf (within : Bool) (ranges : List ByteRange)
  | lineStart
  | lineEnd
  | wordStart
  | wordEnd
  | wordEdge (wanted : Bool)
  | group (number : Nat) (inner : List (List Expression))
  | back (number : Nat)
  | repeated (inner : Expression) (least : Nat) (most? : Option Nat)
deriving Inhabited

abbrev Expression.Alternatives := List (List Expression)

namespace Expression

/-! ### Reading -/

structure Form where
  isExtended : Bool
deriving DecidableEq

inductive Mark where
  | opening
  | closing
  | bar
  | star
  | plus
  | question
  | brace
  | literal (value : Glyph)
  | atom (value : Expression)
deriving Inhabited

def wordRanges : List ByteRange := [(0x30, 0x39), (0x41, 0x5A), (0x5F, 0x5F), (0x61, 0x7A)]

def spaceRanges : List ByteRange := [(0x09, 0x0D), (0x20, 0x20)]

def escaped? (letter : Char) : Option Expression :=
  match letter with
  | 'w' => some (.oneOf true wordRanges)
  | 'W' => some (.oneOf false wordRanges)
  | 's' => some (.oneOf true spaceRanges)
  | 'S' => some (.oneOf false spaceRanges)
  | '<' => some .wordStart
  | '>' => some .wordEnd
  | 'b' => some (.wordEdge true)
  | 'B' => some (.wordEdge false)
  | '\x60' => some .lineStart
  | '\x27' => some .lineEnd
  | _ => if '1' ≤ letter && letter ≤ '9' then some (.back (letter.toNat - 0x30)) else none

def shared? (letter : Char) : Option Mark :=
  match letter with
  | '(' => some .opening
  | ')' => some .closing
  | '|' => some .bar
  | '+' => some .plus
  | '?' => some .question
  | '\x7b' => some .brace
  | _ => none

def mark? (form : Form) : Text → Option (Mark × Text)
  | [] => none
  | .char '\\' :: .char letter :: rest => match escaped? letter, shared? letter with
    | some atom, _ => some (.atom atom, rest)
    | none, some mark => some (if form.isExtended then .literal (.char letter) else mark, rest)
    | none, none => some (.literal (.char letter), rest)
  | .char '\\' :: glyph :: rest => some (.literal glyph, rest)
  | [.char '\\'] => none
  | .char '*' :: rest => some (.star, rest)
  | .char '.' :: rest => some (.atom .any, rest)
  | .char letter :: rest => match shared? letter with
    | some mark => some (if form.isExtended then mark else .literal (.char letter), rest)
    | none => some (.literal (.char letter), rest)
  | glyph :: rest => some (.literal glyph, rest)

def pointOf (glyph : Glyph) : Nat := glyph.codePoint % 256

def namedSet? (text : Text) : Option (List ByteRange × Text) :=
  match text with
  | .char ':' :: rest => do
    let name := rest.takeWhile (· ≠ .char ':')
    if (rest.drop name.length).take 2 ≠ Text.ofString ":]" then none
    return (← ByteRange.named.lookup (← Text.toString? name), rest.drop (name.length + 2))
  | .char '=' :: glyph :: .char '=' :: .char ']' :: rest =>
    some ([(pointOf glyph, pointOf glyph)], rest)
  | .char '.' :: glyph :: .char '.' :: .char ']' :: rest =>
    some ([(pointOf glyph, pointOf glyph)], rest)
  | _ => none

def members? : (fuel : Nat) → (isFirst : Bool) → Text → Option (List ByteRange × Text)
  | 0, _, _ | _, _, [] => none
  | fuel + 1, isFirst, glyph :: rest =>
    if glyph = .char ']' && !isFirst then some ([], rest)
    else do
      let (here, behind) ← match glyph, rest with
        | .char '[', .char kind :: _ =>
          if kind = ':' || kind = '=' || kind = '.' then namedSet? rest
          else some ([(0x5B, 0x5B)], rest)
        | _, .char '-' :: last :: behind =>
          if last = .char ']' then some ([(pointOf glyph, pointOf glyph)], rest)
          else if pointOf last < pointOf glyph then none
          else some ([(pointOf glyph, pointOf last)], behind)
        | _, _ => some ([(pointOf glyph, pointOf glyph)], rest)
      let (others, behind) ← members? fuel false behind
      return (here ++ others, behind)

def bracket? (text : Text) : Option (Expression × Text) :=
  let (inverted, inside) := match text with
    | .char '^' :: rest => (true, rest)
    | _ => (false, text)
  (members? (inside.length + 1) true inside).map fun (ranges, rest) =>
    (.oneOf (!inverted) ranges, rest)

def bounds? (form : Form) (text : Text) : Option (Nat × Option Nat × Text) := do
  let close : Text := if form.isExtended then "\x7d" else "\\\x7d"
  let (least, rest) := Numeral.leadingDigits 10 text
  let number := Numeral.ofText 10 least
  match rest with
  | .char ',' :: most =>
    let (most, rest) := Numeral.leadingDigits 10 most
    if !close.isPrefixOf rest then none
    return (number, if most.isEmpty then none else some (Numeral.ofText 10 most),
      rest.drop close.length)
  | _ =>
    if !close.isPrefixOf rest || least.isEmpty then none
    return (number, some number, rest.drop close.length)

def repetition? (form : Form) (text : Text) : Option (Nat × Option Nat × Text) :=
  match mark? form text with
  | some (.star, rest) => some (0, none, rest)
  | some (.plus, rest) => some (1, none, rest)
  | some (.question, rest) => some (0, some 1, rest)
  | some (.brace, rest) => bounds? form rest
  | _ => none

def repeatedBy (form : Form) : (fuel : Nat) → Expression → Text → Expression × Text
  | 0, inner, text => (inner, text)
  | fuel + 1, inner, text => match repetition? form text with
    | some (least, most?, rest) => repeatedBy form fuel (.repeated inner least most?) rest
    | none => (inner, text)

/-- Reading keeps count of the groups that are opened. -/
abbrev Reading (α : Type) := StateT (Text × Nat) Option α

def endsSequence (form : Form) (rest : Text) : Bool :=
  form.isExtended || match mark? form rest with
    | none => rest.isEmpty
    | some (.closing, _) | some (.bar, _) => true
    | _ => false

mutual

def alternatives (form : Form) (inGroup : Bool) : (fuel : Nat) → Reading Alternatives
  | 0 => fun _ => none
  | fuel + 1 => do
    let first ← sequence form inGroup true fuel
    let (text, count) ← get
    match mark? form text with
    | some (.bar, rest) =>
      set (rest, count)
      return first :: (← alternatives form inGroup fuel)
    | _ => return [first]

def sequence (form : Form) (inGroup isFirst : Bool) : (fuel : Nat) → Reading (List Expression)
  | 0 => fun _ => none
  | fuel + 1 => do
    let (text, count) ← get
    if text.isEmpty then return []
    match text with
    | .char '^' :: rest =>
      if form.isExtended || isFirst then
        set (rest, count)
        return .lineStart :: (← sequence form inGroup true fuel)
    | .char '$' :: rest =>
      if endsSequence form rest then
        set (rest, count)
        return .lineEnd :: (← sequence form inGroup false fuel)
    | _ => pure ()
    match mark? form text with
    | none => fun _ => none
    | some (.bar, _) => return []
    | some (.closing, _) =>
      if inGroup then return []
      if !form.isExtended then fun _ => none
      else atom form inGroup (.single (.char ')')) (text.drop 1) fuel
    | some (.opening, rest) =>
      set (rest, count + 1)
      let inner ← alternatives form true fuel
      let (behind, count') ← get
      match mark? form behind with
      | some (.closing, rest) =>
        set (rest, count')
        atom form inGroup (.group (count + 1) inner) rest fuel
      | _ => fun _ => none
    | some (.literal (.char '['), rest) =>
      if text.head? = some (.char '[') then match bracket? rest with
        | some (set, behind) => atom form inGroup set behind fuel
        | none => fun _ => none
      else atom form inGroup (.single (.char '[')) rest fuel
    | some (.literal glyph, rest) => atom form inGroup (.single glyph) rest fuel
    | some (.atom inner, rest) => atom form inGroup inner rest fuel
    | some (_, rest) =>
      if isFirst then
        if form.isExtended then
          set (rest, count)
          sequence form inGroup true fuel
        else atom form inGroup (.single (text.head?.getD (.char '*'))) rest fuel
      else atom form inGroup (.single (.char '\x7b')) rest fuel

def atom (form : Form) (inGroup : Bool) (inner : Expression) (rest : Text) :
    (fuel : Nat) → Reading (List Expression)
  | 0 => fun _ => none
  | fuel + 1 => do
    let (whole, behind) := repeatedBy form rest.length inner rest
    set (behind, (← get).2)
    return whole :: (← sequence form inGroup false fuel)

end

def read? (form : Form) (text : Text) : Option Alternatives :=
  match (alternatives form false (4 * text.length + 8)).run (text, 0) with
  | some (expression, [], _) => some expression
  | _ => none

/-! ### Fitting -/

/-- A place in a line, with what the groups have fitted on the way to it. -/
structure Place where
  position : Nat := 0
  groups : List (Nat × Nat × Nat) := []
deriving DecidableEq, Inhabited

structure Subject where
  line : Array Glyph
  folds : Bool := false

def folded (glyph : Glyph) : Glyph :=
  match glyph with
  | .char letter => .char letter.toLower
  | other => other

def Subject.same (subject : Subject) (first second : Glyph) : Bool :=
  first = second || (subject.folds && folded first = folded second)

def isWordGlyph (glyph : Glyph) : Bool :=
  wordRanges.any fun range => range.1 ≤ pointOf glyph && pointOf glyph ≤ range.2

def Subject.words (subject : Subject) (position : Nat) : Bool × Bool :=
  let isWord (index : Nat) : Bool := (subject.line[index]?).any isWordGlyph
  (position ≠ 0 && isWord (position - 1), isWord position)

def Subject.step (subject : Subject) (place : Place) (holds : Glyph → Bool) : List Place :=
  match subject.line[place.position]? with
  | some glyph => if holds glyph then [{ place with position := place.position + 1 }] else []
  | none => []

def isAmong (within : Bool) (ranges : List ByteRange) (folds : Bool) (glyph : Glyph) : Bool :=
  let contains (point : Nat) : Bool :=
    ranges.any fun range => range.1 ≤ point && point ≤ range.2
  let upper := match glyph with
    | .char letter => letter.toUpper.toNat % 256
    | other => pointOf other
  (contains (pointOf glyph) || (folds && (contains (pointOf (folded glyph)) || contains upper)))
    == within

def onlyIf (holds : Bool) (place : Place) : List Place := if holds then [place] else []

mutual

/-- All places to which the expression leads from a place. -/
def ends (subject : Subject) : (fuel : Nat) → Expression → Place → List Place
  | 0, _, _ => []
  | fuel + 1, expression, place => match expression with
    | .single value => subject.step place (subject.same value)
    | .any => subject.step place fun _ => true
    | .oneOf within ranges => subject.step place (isAmong within ranges subject.folds)
    | .lineStart => onlyIf (place.position = 0) place
    | .lineEnd => onlyIf (place.position = subject.line.size) place
    | .wordStart =>
      let (left, right) := subject.words place.position
      onlyIf (!left && right) place
    | .wordEnd =>
      let (left, right) := subject.words place.position
      onlyIf (left && !right) place
    | .wordEdge wanted =>
      let (left, right) := subject.words place.position
      onlyIf ((left != right) == wanted) place
    | .group number inner =>
      (endsOfAny subject fuel inner place).map fun reached =>
        { reached with groups := (number, place.position, reached.position) :: reached.groups }
    | .back number => match place.groups.lookup number with
      | none => []
      | some (start, stop) =>
        let part := (subject.line.toList.drop start).take (stop - start)
        let here := (subject.line.toList.drop place.position).take part.length
        onlyIf (here.length = part.length && (here.zip part).all fun pair =>
          subject.same pair.1 pair.2) { place with position := place.position + part.length }
    | .repeated inner least most? => endsOfMany subject fuel inner least most? place

def endsOfMany (subject : Subject) : (fuel : Nat) → Expression → (least : Nat) →
    (most? : Option Nat) → Place → List Place
  | 0, _, _, _, _ => []
  | fuel + 1, inner, least, most?, place =>
    let further :=
      if most? = some 0 then []
      else ((ends subject fuel inner place).filter fun reached =>
        least ≠ 0 || reached.position ≠ place.position).flatMap
          (endsOfMany subject fuel inner (least - 1) (most?.map (· - 1)))
    (further ++ onlyIf (least = 0) place).eraseDups

def endsOfAll (subject : Subject) : (fuel : Nat) → List Expression → Place → List Place
  | 0, _, _ => []
  | _, [], place => [place]
  | fuel + 1, first :: rest, place =>
    ((ends subject fuel first place).flatMap (endsOfAll subject fuel rest)).eraseDups

def endsOfAny (subject : Subject) : (fuel : Nat) → Alternatives → Place → List Place
  | 0, _, _ => []
  | _, [], _ => []
  | fuel + 1, first :: rest, place =>
    endsOfAll subject fuel first place ++ endsOfAny subject fuel rest place

end

def farthest? (places : List Place) : Option Place :=
  places.foldl (fun best? place => match best? with
    | some best => if best.position < place.position then some place else best?
    | none => some place) none

def fitAt? (expression : Alternatives) (subject : Subject) (position : Nat) : Option Place :=
  farthest? (endsOfAny subject (8 * subject.line.size + 4000) expression { position })

def find? (expression : Alternatives) (subject : Subject) (start : Nat) : Option (Nat × Place) :=
  (List.range (subject.line.size + 1 - start)).findSome? fun step =>
    (fitAt? expression subject (start + step)).map (start + step, ·)

end Expression

end GenWalk.Machine
