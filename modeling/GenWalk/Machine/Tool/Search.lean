import GenWalk.Machine.Tool.Expression
import GenWalk.Machine.Tool.Lines

/-!
Searching lines: those that fit one of several patterns, or all the others, with what stands around
them.
-/

namespace GenWalk.Machine.Tool

namespace Search

inductive Style where
  | basic
  | extended
  | fixed
deriving DecidableEq, Inhabited

def table : OptionTable where
  letters := "qviInclLowxshHrRyEFGaUbz"
  valued := "efmABC"
  long := [("quiet", 'q'), ("silent", 'q'), ("invert-match", 'v'), ("ignore-case", 'i'),
    ("line-number", 'n'), ("count", 'c'), ("files-with-matches", 'l'), ("only-matching", 'o'),
    ("files-without-match", 'L'), ("word-regexp", 'w'), ("line-regexp", 'x'),
    ("extended-regexp", 'E'), ("fixed-strings", 'F'), ("basic-regexp", 'G'), ("regexp", 'e'),
    ("file", 'f'), ("no-messages", 's'), ("max-count", 'm'), ("recursive", 'r'),
    ("no-filename", 'h'), ("with-filename", 'H'), ("after-context", 'A'),
    ("before-context", 'B'), ("context", 'C')]

def styleOf (usual : Style) (options : Options) : Style :=
  match options.given.reverse.find? fun entry => "EFG".toList.contains entry.1 with
  | some ('E', _) => .extended
  | some ('F', _) => .fixed
  | some _ => .basic
  | none => usual

def patterns? (style : Style) (text : Text) : Option (List Expression.Alternatives) :=
  (Text.splitOn (.char '\n') text).mapM fun line => match style with
    | .fixed => some [line.map Expression.single]
    | .basic => Expression.read? { isExtended := false } line
    | .extended => Expression.read? { isExtended := true } line

structure Demand where
  word : Bool
  line : Bool

def Demand.allows (demand : Demand) (subject : Expression.Subject) (start stop : Nat) : Bool :=
  let isWord (index : Nat) : Bool := (subject.line[index]?).any Expression.isWordGlyph
  (!demand.line || (start = 0 && stop = subject.line.size)) &&
    (!demand.word || (!(start ≠ 0 && isWord (start - 1)) && !isWord stop))

def fitAt? (patterns : List Expression.Alternatives) (demand : Demand)
    (subject : Expression.Subject) (position : Nat) : Option Nat :=
  let stops := patterns.flatMap fun pattern =>
    (Expression.endsOfAny subject (8 * subject.line.size + 4000) pattern { position }).map
      (·.position)
  (stops.filter (demand.allows subject position)).max?

def find? (patterns : List Expression.Alternatives) (demand : Demand)
    (subject : Expression.Subject) (start : Nat) : Option (Nat × Nat) :=
  (List.range (subject.line.size + 1 - start)).findSome? fun step =>
    (fitAt? patterns demand subject (start + step)).map (start + step, ·)

def parts (patterns : List Expression.Alternatives) (demand : Demand)
    (subject : Expression.Subject) : (fuel : Nat) → (start : Nat) → List Text
  | 0, _ => []
  | fuel + 1, start => match find? patterns demand subject start with
    | none => []
    | some (first, stop) =>
      if stop = first then parts patterns demand subject fuel (first + 1)
      else (subject.line.toList.drop first).take (stop - first) ::
        parts patterns demand subject fuel stop

structure Plan where
  options : Options
  patterns : List Expression.Alternatives
  named : Bool

namespace Plan

def demand (plan : Plan) : Demand := { word := plan.options.has 'w', line := plan.options.has 'x' }

def subject (plan : Plan) (line : Text) : Expression.Subject :=
  { line := line.toArray, folds := plan.options.has 'i' || plan.options.has 'y' }

def selects (plan : Plan) (line : Text) : Bool :=
  (find? plan.patterns plan.demand (plan.subject line) 0).isSome != plan.options.has 'v'

def number? (plan : Plan) (letter : Char) : Option Nat :=
  (plan.options.value? letter).bind Numeral.decimal?

def context (plan : Plan) : Nat × Nat :=
  let around := (plan.number? 'C').getD 0
  ((plan.number? 'B').getD around, (plan.number? 'A').getD around)

def selected (plan : Plan) (lines : List Text) : List Nat :=
  let all := (lines.zipIdx.filter fun entry => plan.selects entry.1).map Prod.snd
  match plan.number? 'm' with
  | some most => all.take most
  | none => all

def lead (plan : Plan) (name : Text) (position : Nat) (mark : Char) : Text :=
  (if plan.named then name ++ [.char mark] else []) ++
    if plan.options.has 'n' then Text.ofNat (position + 1) ++ [.char mark] else []

def surrounded (plan : Plan) (name : Text) (lines : List Text) (selected : List Nat) : List Text :=
  let (before, behind) := plan.context
  let shown := lines.zipIdx.filter fun (_, position) =>
    selected.any fun found => found ≤ position + before && position ≤ found + behind
  let step (state : Option Nat × List Text) (entry : Text × Nat) : Option Nat × List Text :=
    let (last?, done) := state
    let (line, position) := entry
    let gap := last?.any (· + 1 < position) && before + behind ≠ 0
    let mark := if selected.contains position then ':' else '-'
    (some position, (plan.lead name position mark ++ line) ::
      if gap then "--" :: done else done)
  (shown.foldl step (none, [])).2.reverse

def report (plan : Plan) (name : Text) (lines : List Text) (selected : List Nat) : List Text :=
  if plan.options.has 'q' then []
  else if plan.options.has 'l' then if selected.isEmpty then [] else [name]
  else if plan.options.has 'L' then if selected.isEmpty then [name] else []
  else if plan.options.has 'c' then
    [(if plan.named then name ++ [.char ':'] else []) ++ Text.ofNat selected.length]
  else if plan.options.has 'o' then
    if plan.options.has 'v' then []
    else selected.flatMap fun position =>
      let line := lines.getD position []
      (parts plan.patterns plan.demand (plan.subject line) (line.length + 1) 0).map
        (plan.lead name position ':' ++ ·)
  else plan.surrounded name lines selected

end Plan

def filesBelow (machine : Machine) : (depth : Nat) → Text → List Text
  | 0, _ => []
  | depth + 1, path => match machine.kind true path with
    | .ok .directory =>
      (Text.sorted ((machine.names path).toOption.getD [])).flatMap fun name =>
        filesBelow machine depth (if path.getLast? = some slash then path ++ name
          else path ++ slash :: name)
    | _ => [path]

def run (usual : Style) (options : Options) : Tool := fun call =>
  let style := styleOf usual options
  let fromFiles := (options.values 'f').map fun path =>
    (call.machine.content path).map fun bytes => Text.join "\n" (byteLines bytes)
  let bytewise (text : Text) : Text := Utf8.bytewise (Utf8.encode text)
  let given := (options.values 'e').map bytewise ++ fromFiles.filterMap Except.toOption
  let isImplicit := (options.values 'e').isEmpty && fromFiles.isEmpty
  let texts := if isImplicit then (options.operands.take 1).map bytewise else given
  let files := if isImplicit then options.operands.drop 1 else options.operands
  let isDeep := options.has 'r' || options.has 'R'
  let start := if isDeep && files.isEmpty then [Text.ofString "."] else files
  let reached := if isDeep then
      start.flatMap (filesBelow call.machine (call.machine.disk.entries.length + 1))
    else start
  if (isImplicit && texts.isEmpty) || !(fromFiles.all Except.toBool) then call.answer 2 []
  else match texts.mapM (patterns? style) with
    | none => call.answer 2 []
    | some patterns =>
      let plan : Plan := {
        options
        patterns := patterns.flatten
        named := !options.has 'h' && (options.has 'H' || 1 < reached.length || isDeep) }
      let named := contents call (if reached.isEmpty && !isDeep then ["-"] else reached)
      let shownName (name : Text) : Text :=
        if name = Text.ofString "-" then "(standard input)" else name
      let found := named.filterMap fun (name, content) => content.toOption.map fun bytes =>
        let lines := byteLines bytes
        (shownName name, lines, plan.selected lines)
      let complaints := named.flatMap fun (name, content) => match content with
        | .ok _ => []
        | .error fault => if options.has 's' then [] else fileComplaint "grep" name fault
      let isFound := found.any fun (_, _, selected) => !selected.isEmpty
      let failed := named.any fun entry => !entry.2.toBool
      { code := if failed && !(options.has 'q' && isFound) then 2 else if isFound then 0 else 1
        output := unlines (found.flatMap fun (name, lines, selected) =>
          plan.report name lines selected)
        complaints
        readsInput := reached.isEmpty || reached.contains (Text.ofString "-")
        machine := call.machine }

end Search

def search (usual : Search.Style) : Tool := withOptions Search.table 2 (Search.run usual)

end GenWalk.Machine.Tool
