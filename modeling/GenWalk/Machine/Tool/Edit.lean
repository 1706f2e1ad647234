import GenWalk.Machine.Tool.Expression
import GenWalk.Machine.Tool.Lines

/-!
Editing lines on their way from input to output. An edit is a list of orders, each for the lines
that its addresses tell; all of them are followed for each line, which then is put out.
-/

namespace GenWalk.Machine.Tool

namespace Edit

abbrev Fitting := Option (Expression.Alternatives × Bool)

inductive Address where
  | number (line : Nat)
  | last
  | fitting (expression : Fitting)
  | every (first step : Nat)
  | behind (count : Nat)
deriving Inhabited

inductive Replacement where
  | text (value : Text)
  | group (number : Nat)

inductive Order where
  | substitute (expression : Fitting) (replacement : List Replacement) (first : Nat)
      (everywhere prints : Bool)
  | replaceEach (pairs : List (Glyph × Glyph))
  | print
  | printFirst
  | printNumber
  | delete
  | deleteFirst
  | append (text : Text)
  | insert (text : Text)
  | change (text : Text)
  | next
  | joinNext
  | hold (adds : Bool)
  | fetch (adds : Bool)
  | exchange
  | quit (code : Nat) (silently : Bool)
  | branch (ifReplaced : Bool) (label : Text)
  | label (name : Text)
  | opening
  | closing

structure Step where
  addresses : List Address
  inverted : Bool
  order : Order

/-! ### Reading -/

abbrev Reading (α : Type) := StateT Text Option α

def fail : Reading α := fun _ => none

def skipSpace : Reading Unit := modify (·.dropWhile Numeral.isSpace)

def skipBlanks : Reading Unit :=
  modify (·.dropWhile fun glyph => glyph == .char ' ' || glyph == .char '\t')

def takes (glyph : Glyph) : Reading Bool := do
  match ← get with
  | first :: rest =>
    if first = glyph then
      set rest
      return true
    return false
  | [] => return false

def upTo (mark : Glyph) : (fuel : Nat) → (inBrackets : Bool) → Text → Option (Text × Text)
  | 0, _, _ | _, _, [] => none
  | fuel + 1, inBrackets, .char '\\' :: glyph :: rest => do
    let (before, behind) ← upTo mark fuel inBrackets rest
    return (if glyph = mark then glyph :: before else .char '\\' :: glyph :: before, behind)
  | fuel + 1, inBrackets, glyph :: rest =>
    if glyph = mark && !inBrackets then some ([], rest)
    else do
      let (before, behind) ← upTo mark fuel inBrackets rest
      return (glyph :: before, behind)

def delimited (mark : Glyph) : Reading Text := do
  let text ← get
  match upTo mark (text.length + 1) false text with
  | some (before, behind) =>
    set behind
    return before
  | none => fail

def plainExpression : Text → Text
  | .char '\\' :: .char 'n' :: rest => .char '\n' :: plainExpression rest
  | .char '\\' :: .char 't' :: rest => .char '\t' :: plainExpression rest
  | .char '\\' :: glyph :: rest => .char '\\' :: glyph :: plainExpression rest
  | glyph :: rest => glyph :: plainExpression rest
  | [] => []

def fitting (form : Expression.Form) (folds : Bool) (text : Text) : Reading Fitting :=
  if text.isEmpty then return none
  else match Expression.read? form (plainExpression text) with
    | some expression => return some (expression, folds)
    | none => fail

def number? : Reading (Option Nat) := do
  let (digits, rest) := Numeral.leadingDigits 10 (← get)
  set rest
  return Numeral.decimal? digits

def address? (form : Expression.Form) : Reading (Option Address) := do
  match ← get with
  | .char '$' :: rest =>
    set rest
    return some .last
  | .char '/' :: rest =>
    set rest
    let text ← delimited (.char '/')
    let folds ← takes (.char 'I')
    return some (.fitting (← fitting form folds text))
  | .char '\\' :: mark :: rest =>
    set rest
    let text ← delimited mark
    let folds ← takes (.char 'I')
    return some (.fitting (← fitting form folds text))
  | .char '+' :: rest =>
    set rest
    return (← number?).map .behind
  | _ =>
    match ← number? with
    | none => return none
    | some number =>
      if ← takes (.char '~') then return some (.every number ((← number?).getD 0))
      return some (.number number)

def replacement : Text → List Replacement
  | [] => []
  | .char '&' :: rest => .group 0 :: replacement rest
  | .char '\\' :: glyph :: rest =>
    match Numeral.digit? 10 glyph with
    | some digit => .group digit :: replacement rest
    | none =>
      let text : Text := match glyph with
        | .char 'n' => "\n"
        | .char 't' => "\t"
        | _ => [glyph]
      .text text :: replacement rest
  | glyph :: rest => .text [glyph] :: replacement rest

def substitution (form : Expression.Form) : Reading Order := do
  match ← get with
  | mark :: rest =>
    set rest
    let text ← delimited mark
    let new ← delimited mark
    let (flags, behind) := (← get).spanUntil fun glyph =>
      !glyph.satisfies fun letter => letter.isDigit || "gpiIMm".toList.contains letter
    set behind
    let has (letter : Char) : Bool := flags.contains (.char letter)
    let digits := flags.filter fun glyph => (Numeral.digit? 10 glyph).isSome
    let expression ← fitting form (has 'i' || has 'I') text
    let first := if digits.isEmpty then 1 else Numeral.ofText 10 digits
    if first = 0 then fail
    return .substitute expression (replacement new) first (has 'g') (has 'p')
  | [] => fail

def unescaped : Text → Text
  | .char '\\' :: .char 'n' :: rest => .char '\n' :: unescaped rest
  | .char '\\' :: .char 't' :: rest => .char '\t' :: unescaped rest
  | .char '\\' :: .char '\\' :: rest => .char '\\' :: unescaped rest
  | glyph :: rest => glyph :: unescaped rest
  | [] => []

def glyphPairs : Reading Order := do
  match ← get with
  | mark :: rest =>
    set rest
    let first := unescaped (← delimited mark)
    let second := unescaped (← delimited mark)
    if first.length ≠ second.length then fail
    return .replaceEach (first.zip second)
  | [] => fail

def textLine : (fuel : Nat) → Text → Text × Text
  | 0, text => ([], text)
  | _, [] => ([], [])
  | _, .char '\n' :: rest => ([], rest)
  | fuel + 1, .char '\\' :: glyph :: rest =>
    let (line, behind) := textLine fuel rest
    (glyph :: line, behind)
  | fuel + 1, glyph :: rest =>
    let (line, behind) := textLine fuel rest
    (glyph :: line, behind)

def text : Reading Text := do
  skipBlanks
  match ← get with
  | .char '\\' :: rest =>
    let behind := rest.dropWhile fun glyph => glyph == .char ' ' || glyph == .char '\t'
    set (if behind.head? = some (.char '\n') then behind.drop 1 else rest)
  | _ => pure ()
  let (line, rest) := textLine (← get).length (← get)
  set rest
  return line

def labelName : Reading Text := do
  skipBlanks
  let (name, rest) := (← get).spanUntil fun glyph => Numeral.isSpace glyph || glyph == .char ';'
  set rest
  return name

def order (form : Expression.Form) : Reading Order := do
  match ← get with
  | .char letter :: rest =>
    set rest
    match letter with
    | 's' => substitution form
    | 'y' => glyphPairs
    | 'p' => return .print
    | 'P' => return .printFirst
    | '=' => return .printNumber
    | 'd' => return .delete
    | 'D' => return .deleteFirst
    | 'a' => return .append (← text)
    | 'i' => return .insert (← text)
    | 'c' => return .change (← text)
    | 'n' => return .next
    | 'N' => return .joinNext
    | 'h' => return .hold false
    | 'H' => return .hold true
    | 'g' => return .fetch false
    | 'G' => return .fetch true
    | 'x' => return .exchange
    | 'q' => do
      skipBlanks
      return .quit ((← number?).getD 0) false
    | 'Q' => do
      skipBlanks
      return .quit ((← number?).getD 0) true
    | 'b' => return .branch false (← labelName)
    | 't' => return .branch true (← labelName)
    | ':' => return .label (← labelName)
    | '\x7b' => return .opening
    | '\x7d' => return .closing
    | _ => fail
  | _ => fail

def standsAlone : Order → Bool
  | .opening | .closing | .append _ | .insert _ | .change _ => true
  | _ => false

def separators : (fuel : Nat) → Reading Unit
  | 0 => return
  | fuel + 1 => do
    skipSpace
    if ← takes (.char ';') then separators fuel
    else if (← get).head? = some (.char '#') then
      modify (·.dropWhile (· ≠ .char '\n'))
      separators fuel

def steps (form : Expression.Form) : (fuel : Nat) → Reading (List Step)
  | 0 => fail
  | fuel + 1 => do
    separators ((← get).length + 1)
    if (← get).isEmpty then return []
    let first? ← address? form
    let isRange ← if first?.isSome then takes (.char ',') else pure false
    let second? ← if isRange then address? form else pure none
    skipBlanks
    let inverted ← takes (.char '!')
    skipBlanks
    let order ← order form
    unless standsAlone order do
      skipBlanks
      match (← get).head? with
      | none | some (.char ';') | some (.char '\n') | some (.char '\x7d') | some (.char '#') =>
        pure ()
      | _ => fail
    return { addresses := first?.toList ++ second?.toList, inverted, order } :: (← steps form fuel)

def read? (form : Expression.Form) (script : Text) : Option (List Step) :=
  ((steps form (script.length + 2)).run script).map Prod.fst

/-! ### Following the orders -/

abbrev Piece := Text × Bool

structure State where
  pattern : Text := []
  held : Text := []
  number : Nat := 0
  rest : List Text := []
  done : List Piece := []
  pending : List Text := []
  replaced : Bool := false
  lastExpression : Fitting := none
  underway : List (Nat × Nat) := []
  ended? : Option Nat := none

inductive Course where
  | on
  | goTo (position : Nat)
  | over (shows : Bool)
  | again

structure Plan where
  steps : Array Step
  silent : Bool
  ending : Glyph
  isWhole : Bool

abbrev Editing (α : Type) := StateM State α

def isLast : Editing Bool := do return (← get).rest.isEmpty

def emit (plan : Plan) (line : Text) : Editing Unit := do
  let ends := plan.isWhole || !(← isLast)
  modify fun state => { state with done := (line, ends) :: state.done }

def emitWhole (line : Text) : Editing Unit :=
  modify fun state => { state with done := (line, true) :: state.done }

def useExpression (expression : Fitting) : Editing Fitting := do
  match expression with
  | some known =>
    modify fun state => { state with lastExpression := some known }
    return some known
  | none => return (← get).lastExpression

def findIn (expression : Fitting) (line : Text) (start : Nat) : Option (Nat × Expression.Place) :=
  expression.bind fun (alternatives, folds) =>
    Expression.find? alternatives { line := line.toArray, folds } start

def isAt (address : Address) : Editing Bool := do
  let state ← get
  match address with
  | .number line => return state.number = line
  | .last => isLast
  | .fitting expression => return (findIn (← useExpression expression) state.pattern 0).isSome
  | .every first step =>
    return if step = 0 then state.number = first
      else first ≤ state.number && (state.number - first) % step = 0
  | .behind _ => return false

def endsHere (start : Nat) (address : Address) : Editing Bool := do
  let state ← get
  match address with
  | .number line => return line ≤ state.number
  | .behind count => return start + count ≤ state.number
  | .every _ step => return step = 0 || state.number % step = 0
  | other => isAt other

def applies (position : Nat) (step : Step) : Editing Bool := do
  let holds ← match step.addresses with
    | [] => pure true
    | [address] => isAt address
    | first :: final :: _ => do
      match (← get).underway.lookup position with
      | some start =>
        let state ← get
        let isPast := match final with
          | .number line => line < state.number
          | _ => false
        if ← endsHere start final then
          modify fun state => { state with underway := state.underway.filter (·.1 ≠ position) }
        pure !isPast
      | none =>
        let starts : Bool ← match first with
          | .number 0 => pure (decide ((← get).number = 1))
          | address => isAt address
        if starts then
          let start := (← get).number
          let isOver ← match first, final with
            | .number 0, address => isAt address
            | _, .number line => pure (decide (line ≤ start))
            | _, .behind count => pure (decide (count = 0))
            | _, .every _ step => pure (decide (step = 0 || start % step = 0))
            | _, _ => pure false
          unless isOver do
            modify fun state => { state with underway := (position, start) :: state.underway }
        pure starts
  return holds != step.inverted

def substituteFrom (expression : Fitting) (replacement : List Replacement) (first : Nat)
    (everywhere : Bool) (line : Text) : (fuel : Nat) → (start count : Nat) →
    (afterFit : Bool) → Text × Bool
  | 0, start, _, _ => (line.drop start, false)
  | fuel + 1, start, count, afterFit =>
    match findIn expression line start with
    | none => (line.drop start, false)
    | some (position, place) =>
      let before := (line.drop start).take (position - start)
      let fitted := (line.drop position).take (place.position - position)
      if fitted.isEmpty && afterFit && position = start then
        match line.drop start with
        | [] => ([], false)
        | glyph :: _ =>
          let (others, replaced) :=
            substituteFrom expression replacement first everywhere line fuel (start + 1) count false
          (glyph :: others, replaced)
      else
        let isWanted := first ≤ count + 1
        let new := if !isWanted then fitted
          else replacement.flatMap fun part => match part with
            | .text value => value
            | .group 0 => fitted
            | .group number => match place.groups.lookup number with
              | some (start, stop) => (line.drop start).take (stop - start)
              | none => []
        if isWanted && !everywhere then (before ++ new ++ line.drop place.position, true)
        else
          let isEmpty := fitted.isEmpty
          let kept : Text := if isEmpty then (line.drop place.position).take 1 else []
          let next := if isEmpty then place.position + 1 else place.position
          if line.length < next then (before ++ new, isWanted)
          else
            let (others, replaced) := substituteFrom expression replacement first everywhere line
              fuel next (count + 1) (!isEmpty)
            (before ++ new ++ kept ++ others, replaced || isWanted)

def takeLine (join : Text → Text → Text) : Editing Bool := do
  let state ← get
  match state.rest with
  | [] => return false
  | line :: rest =>
    set { state with pattern := join state.pattern line, number := state.number + 1, rest }
    return true

def flush : Editing Unit := do
  let state ← get
  set { state with pending := [] }
  state.pending.forM emitWhole

def matchingClosing (steps : Array Step) : (fuel : Nat) → (depth position : Nat) → Nat
  | 0, _, position => position
  | fuel + 1, depth, position => match (steps[position]?).map Step.order with
    | none => position
    | some .opening => matchingClosing steps fuel (depth + 1) (position + 1)
    | some .closing =>
      if depth = 0 then position else matchingClosing steps fuel (depth - 1) (position + 1)
    | some _ => matchingClosing steps fuel depth (position + 1)

def labelPosition (steps : Array Step) (name : Text) : Nat :=
  if name.isEmpty then steps.size
  else (steps.findIdx? fun step => match step.order with
    | .label known => known = name
    | _ => false).getD steps.size

def follow (plan : Plan) (position : Nat) (step : Step) : Editing Course := do
  let state ← get
  match step.order with
  | .substitute expression replacement first everywhere prints =>
    let known ← useExpression expression
    let (line, replaced) := substituteFrom known replacement first everywhere state.pattern
      (2 * state.pattern.length + 2) 0 0 false
    if replaced then
      modify fun state => { state with pattern := line, replaced := true }
      if prints then emit plan line
    return .on
  | .replaceEach pairs =>
    set { state with pattern := state.pattern.map fun glyph => (pairs.lookup glyph).getD glyph }
    return .on
  | .print =>
    emit plan state.pattern
    return .on
  | .printFirst =>
    emitWhole (state.pattern.takeWhile (· ≠ plan.ending))
    return .on
  | .printNumber =>
    emitWhole (Text.ofNat state.number)
    return .on
  | .delete => return .over false
  | .deleteFirst =>
    if state.pattern.contains plan.ending then
      set { state with pattern := (state.pattern.dropWhile (· ≠ plan.ending)).drop 1 }
      return .again
    return .over false
  | .append text =>
    set { state with pending := state.pending ++ [text] }
    return .on
  | .insert text =>
    emitWhole text
    return .on
  | .change text =>
    let isInside := !step.inverted && 1 < step.addresses.length &&
      (state.underway.lookup position).isSome
    unless isInside do emitWhole text
    return .over false
  | .next =>
    if ← isLast then
      modify fun state => { state with ended? := some 0 }
      return .over true
    unless plan.silent do emit plan state.pattern
    flush
    discard (takeLine fun _ line => line)
    return .on
  | .joinNext =>
    if ← isLast then
      modify fun state => { state with ended? := some 0 }
      return .over true
    flush
    discard (takeLine fun old line => old ++ plan.ending :: line)
    return .on
  | .hold adds =>
    set { state with
      held := if adds then state.held ++ plan.ending :: state.pattern else state.pattern }
    return .on
  | .fetch adds =>
    set { state with
      pattern := if adds then state.pattern ++ plan.ending :: state.held else state.held }
    return .on
  | .exchange =>
    set { state with pattern := state.held, held := state.pattern }
    return .on
  | .quit code silently =>
    set { state with ended? := some code }
    return .over !silently
  | .branch ifReplaced label =>
    if ifReplaced && !state.replaced then return .on
    if ifReplaced then set { state with replaced := false }
    return .goTo (labelPosition plan.steps label)
  | .label _ | .opening | .closing => return .on

def followFrom (plan : Plan) : (fuel : Nat) → (position : Nat) → Editing Course
  | 0, _ => return .over true
  | fuel + 1, position => do
    match plan.steps[position]? with
    | none => return .over true
    | some step =>
      if ← applies position step then
        match ← follow plan position step with
        | .on => followFrom plan fuel (position + 1)
        | .goTo other => followFrom plan fuel other
        | other => return other
      else match step.order with
        | .opening =>
          followFrom plan fuel (matchingClosing plan.steps plan.steps.size 0 (position + 1))
        | _ => followFrom plan fuel (position + 1)

def editLines (plan : Plan) : (fuel : Nat) → (keeps : Bool) → Editing Unit
  | 0, _ => return
  | fuel + 1, keeps => do
    let isReady ← if keeps then pure true else takeLine fun _ line => line
    if isReady then
      modify fun state => { state with replaced := false }
      let course ← followFrom plan (1000 * (plan.steps.size + 1) + 100000) 0
      let shows := match course with
        | .over shows => shows
        | _ => false
      if shows && !plan.silent then emit plan (← get).pattern
      flush
      if (← get).ended?.isNone then
        editLines plan fuel (match course with
          | .again => true
          | _ => false)

def joined (ending : Glyph) : List Piece → Text
  | [] => []
  | [(text, ends)] => if ends then text ++ [ending] else text
  | (text, _) :: rest => text ++ ending :: joined ending rest

def apply (steps : List Step) (silent : Bool) (ending : Glyph) (text : Text) : Nat × Text :=
  let lines := recordsOf ending text
  let plan : Plan := {
    steps := steps.toArray
    silent
    ending
    isWhole := text.isEmpty || text.getLast? = some ending }
  let ((), state) := (editLines plan (2 * text.length + 2) false).run { rest := lines }
  (state.ended?.getD 0, joined ending state.done.reverse)

/-! ### The program -/

def table : OptionTable where
  letters := "nErsuz"
  valued := "ef"
  long := [("quiet", 'n'), ("silent", 'n'), ("regexp-extended", 'E'), ("expression", 'e')]

def isInPlace (argument : Text) : Bool :=
  (Text.ofString "-i").isPrefixOf argument || (Text.ofString "--in-place").isPrefixOf argument

def run (inPlace : Bool) (options : Options) : Tool := fun call =>
  let fromFiles := (options.values 'f').filterMap fun path =>
    ((call.machine.content path).toOption.map fun bytes => Text.join "\n" (byteLines bytes))
  let given := options.values 'e' ++ fromFiles
  let isImplicit := given.isEmpty
  let script := Text.join "\n" (if isImplicit then options.operands.take 1 else given)
  let files := if isImplicit then options.operands.drop 1 else options.operands
  if isImplicit && options.operands.isEmpty then call.answer 1 []
  else
    let form : Expression.Form := { isExtended := options.has 'E' || options.has 'r' }
    match read? form (Utf8.bytewise (Utf8.encode script)) with
    | none => call.answer 1 []
    | some steps =>
      if inPlace then
        files.foldl (fun (outcome : ToolOutcome) path => match outcome.machine.content path with
          | .error fault => { outcome with
              code := 2
              complaints := outcome.complaints ++
                fileComplaint "sed" ("can\x27t read " ++ path) fault }
          | .ok bytes =>
            let (code, text) := apply steps (options.has 'n') options.ending (Utf8.bytewise bytes)
            match outcome.machine.write path (Utf8.encode text) with
            | .ok machine => { outcome with machine, code := max outcome.code code }
            | .error _ => { outcome with code := 4 }) (call.answer 0 [])
      else overFiles { program := "sed", before := "can\x27t read " } 2 files (fun files =>
        let parts := files.map fun file => Utf8.bytewise file.2
        let whole := parts.dropLast.flatMap fun part =>
          if part.isEmpty || part.getLast? = some options.ending then part
          else part ++ [options.ending]
        let (code, text) :=
          apply steps (options.has 'n') options.ending (whole ++ parts.getLastD [])
        (code, Utf8.encode text)) call

end Edit

def edit : Tool := fun call =>
  let (inPlace, others) := call.arguments.partition Edit.isInPlace
  withOptions Edit.table 1 (Edit.run !inPlace.isEmpty) { call with arguments := others }

end GenWalk.Machine.Tool
