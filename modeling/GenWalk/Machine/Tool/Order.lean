import GenWalk.Machine.Tool.Lines

/-!
Lines in order, by all of a line or by keys in it, and lines that are next to lines like them.
-/

namespace GenWalk.Machine.Tool

namespace Order

def isBlank (glyph : Glyph) : Bool := glyph == .char ' ' || glyph == .char '\t'

structure Rule where
  numeric : Bool := false
  folded : Bool := false
  wordly : Bool := false
  printable : Bool := false
  startBlanks : Bool := false
  endBlanks : Bool := false
  reversed : Bool := false
deriving DecidableEq

structure Key where
  field : Nat := 0
  offset : Nat := 0
  last? : Option (Nat × Nat) := none
  rule : Rule := {}

/-- What stands behind the first few fields of a line. A field ends before a separator, or before
blanks that come after something else. -/
def behindFields (separator? : Option Glyph) (entersLast : Bool) : (fields : Nat) → Text → Text
  | 0, text => text
  | fields + 1, text => match separator? with
    | some separator =>
      let rest := text.dropWhile (· ≠ separator)
      behindFields separator? entersLast fields
        (if fields ≠ 0 || entersLast then rest.drop 1 else rest)
    | none =>
      behindFields separator? entersLast fields
        ((text.dropWhile isBlank).dropWhile (!isBlank ·))

def Key.start (separator? : Option Glyph) (key : Key) (line : Text) : Nat :=
  let rest := behindFields separator? true key.field line
  let rest := if key.rule.startBlanks then rest.dropWhile isBlank else rest
  line.length - (rest.drop key.offset).length

def Key.stop (separator? : Option Glyph) (key : Key) (line : Text) : Nat :=
  match key.last? with
  | none => line.length
  | some (field, 0) => line.length - (behindFields separator? false (field + 1) line).length
  | some (field, size) =>
    let rest := behindFields separator? true field line
    let rest := if key.rule.endBlanks then rest.dropWhile isBlank else rest
    line.length - (rest.drop size).length

def Key.text (separator? : Option Glyph) (key : Key) (line : Text) : Text :=
  let start := key.start separator? line
  (line.drop start).take (key.stop separator? line - start)

def leadingDecimal (text : Text) : Bool × Nat × Text :=
  let text := text.dropWhile isBlank
  let (isNegative, rest) := match text with
    | .char '-' :: rest => (true, rest)
    | _ => (false, text)
  let (whole, rest) := Numeral.leadingDigits 10 rest
  let places := match rest with
    | .char '.' :: places => (Numeral.leadingDigits 10 places).1
    | _ => []
  (isNegative, Numeral.ofText 10 whole, places)

def compareNumbers (first second : Text) : Ordering :=
  let (isNegative, whole, places) := leadingDecimal first
  let (isOtherNegative, otherWhole, otherPlaces) := leadingDecimal second
  let size := max places.length otherPlaces.length
  let scaled (negative : Bool) (whole : Nat) (places : Text) : Int :=
    let digits := Numeral.ofText 10 (places ++ List.replicate (size - places.length) (.char '0'))
    let value := Int.ofNat (whole * Nat.pow 10 size + digits)
    if negative then -value else value
  compare (scaled isNegative whole places) (scaled isOtherNegative otherWhole otherPlaces)

def compareTexts (first second : Text) : Ordering :=
  if first = second then .eq else if Text.notAfter first second then .lt else .gt

def Rule.compare (rule : Rule) (first second : Text) : Ordering :=
  let seen (text : Text) : Text :=
    let counted := text.filter fun glyph =>
      (!rule.wordly || isBlank glyph || glyph.satisfies Char.isAlphanum) &&
        (!rule.printable || glyph.satisfies fun letter => ' ' ≤ letter && letter ≤ '~')
    if rule.folded then counted.map fun glyph => match glyph with
      | .char letter => .char letter.toUpper
      | other => other
    else counted
  let ordering := if rule.numeric then compareNumbers first second
    else compareTexts (seen first) (seen second)
  if rule.reversed then ordering.swap else ordering

def Rule.withLetter? (atStart atEnd : Bool) (rule : Rule) : Char → Option Rule
  | 'n' | 'g' => some { rule with numeric := true }
  | 'f' => some { rule with folded := true }
  | 'd' => some { rule with wordly := true }
  | 'i' => some { rule with printable := true }
  | 'b' => some { rule with
      startBlanks := rule.startBlanks || atStart, endBlanks := rule.endBlanks || atEnd }
  | 'r' => some { rule with reversed := true }
  | _ => none

def keyEnd? (atStart : Bool) (rule : Rule) (text : Text) : Option (Nat × Nat × Rule × Text) := do
  let (digits, rest) := Numeral.leadingDigits 10 text
  let field ← Numeral.decimal? digits
  if field = 0 then none
  let (offset, rest) ← match rest with
    | .char '.' :: offset => do
      let (digits, rest) := Numeral.leadingDigits 10 offset
      pure (← Numeral.decimal? digits, rest)
    | _ => pure (if atStart then 1 else 0, rest)
  let (letters, rest) := rest.spanUntil (· == .char ',')
  let rule ← letters.foldlM (fun rule letter => match letter with
    | .char letter => rule.withLetter? atStart (!atStart) letter
    | _ => none) rule
  return (field, offset, rule, rest)

def key? (usual : Rule) (text : Text) : Option Key := do
  let (field, offset, rule, rest) ← keyEnd? true {} text
  if offset = 0 then none
  let (last?, rule) ← match rest with
    | .char ',' :: ending => do
      let (last, size, rule, rest) ← keyEnd? false rule ending
      if !rest.isEmpty then none
      pure (some (last - 1, size), rule)
    | _ => pure (none, rule)
  return {
    field := field - 1
    offset := offset - 1
    last?
    rule := if rule = {} then usual else rule }

structure Sorting where
  separator? : Option Glyph := none
  keys : List Key := []
  reversed : Bool := false
  unique : Bool := false
  stable : Bool := false

def Sorting.compareKeys (sorting : Sorting) (first second : Text) : Ordering :=
  sorting.keys.foldl (fun ordering key => ordering.then
    (key.rule.compare (key.text sorting.separator? first) (key.text sorting.separator? second))) .eq

/-- Where the keys tell no difference, the whole lines do. -/
def Sorting.compare (sorting : Sorting) (first second : Text) : Ordering :=
  let ordering := if sorting.keys.isEmpty then .eq else sorting.compareKeys first second
  let whole := compareTexts first second
  if sorting.keys.isEmpty || !(sorting.unique || sorting.stable) then
    ordering.then (if sorting.reversed then whole.swap else whole)
  else ordering

def withoutRepeats (same : Text → Text → Bool) : List Text → List Text
  | [] => []
  | first :: rest => first :: withoutRepeatsOf same first rest
where
  withoutRepeatsOf (same : Text → Text → Bool) (last : Text) : List Text → List Text
    | [] => []
    | next :: rest =>
      if same last next then withoutRepeatsOf same last rest
      else next :: withoutRepeatsOf same next rest

def Sorting.apply (sorting : Sorting) (lines : List Text) : List Text :=
  let sorted := lines.mergeSort fun first second => (sorting.compare first second).isLE
  if sorting.unique then
    withoutRepeats (fun first second => sorting.compare first second = .eq) sorted
  else sorted

def Sorting.disorder? (sorting : Sorting) (lines : List Text) : Option (Nat × Text) :=
  (lines.zip (lines.drop 1)).zipIdx.findSome? fun ((first, second), position) =>
    let ordering := sorting.compare first second
    if ordering = .gt || (sorting.unique && ordering = .eq) then some (position + 2, second)
    else none

def table : OptionTable where
  letters := "rnufbdigscCmz"
  valued := "kto"
  long := [("reverse", 'r'), ("numeric-sort", 'n'), ("unique", 'u'), ("ignore-case", 'f'),
    ("key", 'k'), ("field-separator", 't'), ("output", 'o'), ("stable", 's'), ("check", 'c')]

def sorting? (options : Options) : Option Sorting := do
  let rule ← options.given.foldlM (fun rule (letter, _) =>
    if "nfdibrg".toList.contains letter then rule.withLetter? true true letter else some rule) {}
  let keys ← (options.values 'k').mapM (key? rule)
  let separator? ← match options.value? 't' with
    | none => pure none
    | some [separator] => pure (some separator)
    | some [.char '\\', .char '0'] => pure (some (.char '\x00'))
    | some _ => none
  let plain : Rule := { rule with reversed := false }
  let keys := if keys.isEmpty && plain ≠ {} then [{ rule := { rule with } }] else keys
  return { separator?, keys, reversed := options.has 'r', unique := options.has 'u'
           stable := options.has 's' }

def run (options : Options) : Tool := fun call =>
  match sorting? options with
  | none => call.answer 2 []
  | some sorting =>
    let report : Report := { program := "sort", before := "cannot read: " }
    let outcome := overFiles report 2 options.operands (fun files =>
      let lines := files.flatMap fun file =>
        recordsOf options.ending (Utf8.bytewise file.2)
      if options.has 'c' || options.has 'C' then
        (if (sorting.disorder? lines).isSome then 1 else 0, [])
      else (0, Utf8.encode ((sorting.apply lines).flatMap (· ++ [options.ending])))) call
    if outcome.code = 2 then { outcome with output := [] }
    else match options.value? 'o' with
      | none => outcome
      | some path => match call.machine.write path outcome.output with
        | .ok machine => { outcome with output := [], machine }
        | .error _ => { outcome with output := [], code := 2 }

end Order

def sort : Tool := withOptions Order.table 2 Order.run

/-! ### Neighbours -/

def runs (same : Text → Text → Bool) (lines : List Text) : List (Text × Nat) :=
  (lines.foldl (fun (done : List (Text × Nat)) line => match done with
    | (first, count) :: others =>
      if same first line then (first, count + 1) :: others else (line, 1) :: done
    | [] => [(line, 1)]) []).reverse

def uniqueOptions : OptionTable where
  letters := "cduiDz"
  valued := "fsw"
  long := [("count", 'c'), ("repeated", 'd'), ("unique", 'u'), ("ignore-case", 'i'),
    ("skip-fields", 'f'), ("skip-chars", 's')]

def unique : Tool :=
  withOptions uniqueOptions 1 fun options call =>
    let number (letter : Char) : Option Nat := (options.value? letter).bind Numeral.decimal?
    let seen (line : Text) : Text :=
      let behind := (Order.behindFields none true ((number 'f').getD 0) line).drop
        ((number 's').getD 0)
      let part := match number 'w' with
        | some size => behind.take size
        | none => behind
      if options.has 'i' then part.map fun glyph => match glyph with
        | .char letter => .char letter.toLower
        | other => other
      else part
    let shown (line : Text) (count : Nat) : Text :=
      if options.has 'c' then paddedLeft 7 (Text.ofNat count) ++ .char ' ' :: line else line
    let outcome := overFiles "uniq" 1 (options.operands.take 1) (fun files =>
      let wanted := (runs (fun first second => seen first = seen second) (allLines files)).filter
        fun (_, count) => (!options.has 'd' || 1 < count) && (!options.has 'u' || count = 1)
      (0, unlines (wanted.map fun (line, count) => shown line count))) call
    match options.operands with
    | [_, path] => match call.machine.write path outcome.output with
      | .ok machine => { outcome with output := [], machine }
      | .error _ => { outcome with output := [], code := 1 }
    | _ => outcome

end GenWalk.Machine.Tool
