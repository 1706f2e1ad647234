import GenWalk.Script.Builtin
import GenWalk.Script.Expansion

/-!
Running scripts, and the programs that scripts start. Each definition here has a bound on how deep
it may go, since a script need not end. Nothing is proved
of them; they serve to run sessions.
-/

namespace GenWalk.Script

open Machine

/-- What is given back when the bound is reached: the script was ended from outside. -/
def exhausted : Run α := throw (.ended (.killed 9))

/-! ### Parts of a script -/

def round (body : Run Unit) : Run Bool := fun shell =>
  let inner := { shell with loops := shell.loops + 1 }
  let outer (after : Shell) : Shell := { after with loops := shell.loops }
  match body inner with
  | .ok () after => .ok true (outer after)
  | .error (.leave loops) after =>
    if loops ≤ 1 then .ok false (outer after) else .error (.leave (loops - 1)) (outer after)
  | .error (.again loops) after =>
    if loops ≤ 1 then .ok true (outer after) else .error (.again (loops - 1)) (outer after)
  | .error other after => .error other (outer after)

def restoring (restore : Shell → Shell) (act : Run α) : Run α := fun shell =>
  match act shell with
  | .ok value after => .ok value (restore after)
  | .error stop after => .error stop (restore after)

def withOwnChannels (act : Run α) : Run α := fun shell =>
  restoring (fun after => { after with channels := shell.channels }) act shell

def called (parameters : List Text) (body : Run Unit) : Run Unit := fun shell =>
  let outer (after : Shell) : Shell :=
    let restored := (after.saved?.getD []).foldl Shell.restore after
    { restored with parameters := shell.parameters, loops := shell.loops, saved? := shell.saved? }
  match body { shell with parameters, loops := 0, saved? := some [] } with
  | .ok () after | .error .returned after => .ok () (outer after)
  | .error other after => .error other (outer after)

def withAssignments (names : List Text) (act : Run Unit) : Run Unit := fun shell =>
  let saved := names.map shell.save
  restoring (fun after => saved.foldl Shell.restore after) act shell

def mayFail (act : Run Unit) : Run Unit := fun shell =>
  match act shell with
  | .error .failed after => .ok () { after with status := Shell.misuse }
  | result => result

def settle (tested : Bool) : Run Unit := do
  let shell ← get
  if shell.rule 'e' && !tested && shell.status ≠ 0 then finish shell.status

def endingOf : EStateM.Result Break Shell Unit → Ending × Shell
  | .ok () after => (.exited after.status, after)
  | .error (.ended ending) after => (ending, after)
  | .error .failed after => (.exited Shell.misuse, after)
  | .error _ after => (.exited after.status, after)

def leftBy (part outer : Shell) : Shell :=
  { outer with
    machine := { part.machine with directory := outer.machine.directory }
    buffers := part.buffers
    nextBuffer := part.nextBuffer
    nextProcess := part.nextProcess }

/-! ### Starting programs -/

structure Setting where
  environment : Environment
  process : Nat

def bareScript? (machine : Machine) (searchPath name : Text) : Option (Text × Bytes) :=
  ((candidates searchPath name).find? fun path =>
    match machine.invocationAt interpreterLimit path [] with
    | .error .execFormat => true
    | _ => false).bind fun path => (machine.content path).toOption.map fun bytes => (path, bytes)

def startFailureCode (fault : Fault) : Nat :=
  match fault with
  | .system .notFound _ | .system .notDirectory _ => 127
  | _ => 126

def startFailure (fault : Fault) : Text :=
  match fault with
  | .system .notFound _ | .system .notDirectory _ => "not found"
  | .system error _ => Text.ofString error.wording
  | _ => Text.ofString SystemError.invalidArgument.wording

def splitAssignments (arguments : List Text) : List (Text × Text) × List Text :=
  let assigned := arguments.takeWhile (·.contains (.char '='))
  (assigned.map fun text => ((Builtin.assignment text).1, (Builtin.assignment text).2.getD []),
    arguments.drop assigned.length)

structure Start where
  environment : Environment
  command : List Text

def startOf? (environment : Environment) : (fuel : Nat) → List Text → Option Start
  | 0, _ => none
  | fuel + 1, arguments => match arguments with
    | first :: rest =>
      let without (name : Text) : Environment :=
        .ofList (environment.entries.filter (·.1 ≠ name))
      match first.toString? with
      | some "-i" | some "-" | some "--ignore-environment" => startOf? {} fuel rest
      | some "--" => some (finish rest)
      | some "-u" => startOf? (without (rest.headD [])) fuel (rest.drop 1)
      | some "-S" => startOf? environment fuel (Text.words (rest.headD []) ++ rest.drop 1)
      | _ =>
        if (Text.ofString "-S").isPrefixOf first then
          startOf? environment fuel (Text.words (first.drop 2) ++ rest)
        else if (Text.ofString "-u").isPrefixOf first then
          startOf? (without (first.drop 2)) fuel rest
        else if first.head? = some (.char '-') then none
        else some (finish arguments)
    | [] => some (finish [])
where
  finish (arguments : List Text) : Start :=
    let (assigned, command) := splitAssignments arguments
    { environment := environment.setAll assigned, command }

def inputWords : (quote : Option Glyph) → (word? : Option Text) → Text → List Text
  | _, word?, [] => word?.toList
  | some mark, word?, glyph :: rest =>
    if glyph = mark then inputWords none (some (word?.getD [])) rest
    else inputWords (some mark) (some (word?.getD [] ++ [glyph])) rest
  | none, word?, .char '\\' :: glyph :: rest =>
    inputWords none (some (word?.getD [] ++ [glyph])) rest
  | none, word?, glyph :: rest =>
    if Numeral.isSpace glyph then word?.toList ++ inputWords none none rest
    else if glyph = .char '\x27' || glyph = .char '"' then
      inputWords (some glyph) (some (word?.getD [])) rest
    else inputWords none (some (word?.getD [] ++ [glyph])) rest

def chunks (size : Nat) : (fuel : Nat) → List α → List (List α)
  | 0, _ => []
  | fuel + 1, list =>
    if list.isEmpty then [] else list.take size :: chunks size fuel (list.drop size)

def inputCommands (options : Tool.Options) (text : Text) : List (List Text) :=
  let command := if options.operands.isEmpty then [Text.ofString "echo"] else options.operands
  let isNullEnded := options.has '0'
  let items := if isNullEnded then (Text.splitOn (.char '\x00') text).filter (· ≠ [])
    else inputWords none none text
  match options.value? 'I' with
  | some mark =>
    let lines := (Tool.linesOf text).map fun line => line.trimBy Numeral.isSpace
    let fill (item word : Text) : Text :=
      (scan (fun glyph rest => if !mark.isEmpty && mark.isPrefixOf (glyph :: rest) then
        (item, mark.length - 1) else ([glyph], 0)) word).flatten
    ((if isNullEnded then items else lines).filter (· ≠ [])).map fun item => command.map (fill item)
  | none =>
    let size := ((options.value? 'n').bind Numeral.decimal?).getD items.length
    if items.isEmpty then if options.has 'r' then [] else [command]
    else (chunks (max 1 size) (items.length + 1) items).map (command ++ ·)

def inputCommandOptions : Tool.OptionTable where
  letters := "0rtx"
  valued := "nILPds"
  long := [("null", '0'), ("no-run-if-empty", 'r'), ("max-args", 'n')]
  permuted := false

def joinedCode (codes : List Nat) : Nat :=
  if codes.contains 127 then 127
  else if codes.contains 126 then 126
  else if codes.any (· ≠ 0) then 123
  else 0

/-! ### Redirections -/

def channelPath? (path : Text) : Option Nat :=
  match path.toString? with
  | some "/dev/stdin" => some 0
  | some "/dev/stdout" => some 1
  | some "/dev/stderr" => some 2
  | _ =>
    if (Text.ofString "/dev/fd/").isPrefixOf path then Numeral.decimal? (path.drop 8) else none

def joinChannel (number other : Nat) : Run Bool := do
  let shell ← get
  if shell.isOpen other then
    set (shell.withStream number (shell.stream other))
    return true
  complain (Text.ofNat other ++ ": Bad file descriptor")
  return false

def readFrom (number : Nat) (buffer : Buffer) : Run Bool := do
  let (place, shell) := (← get).addBuffer buffer
  set (shell.withStream number (.buffer place))
  return true

def openTarget (number : Nat) (channel : Channel) (target : Text) : Run Bool := do
  let shell ← get
  match channel, channelPath? target with
  | .document, _ => readFrom number { bytes := Utf8.encode target }
  | .join, _ =>
    if target = Text.ofString "-" then
      set (shell.closed number)
      return true
    match Numeral.decimal? target with
    | some other => joinChannel number other
    | none => return false
  | _, some other => joinChannel number other
  | .read, none => match shell.machine.content target with
    | .ok bytes => readFrom number { bytes, isFile := true }
    | .error fault => do
      let reason : Text := match fault with
        | .system .notFound _ => "No such file"
        | _ => startFailure fault
      complain ("cannot open " ++ target ++ ": " ++ reason)
      return false
  | _, none => match shell.machine.openForWriting target with
    | .error fault => do
      let reason : Text := match fault with
        | .system .notFound _ => "Directory nonexistent"
        | _ => startFailure fault
      complain ("cannot create " ++ target ++ ": " ++ reason)
      return false
    | .ok (location, machine) => do
      if channel = .update then
        set { shell with machine }
        return ← readFrom number {
          bytes := (machine.content target).toOption.getD []
          isFile := true }
      let emptied := if channel = .append then machine
        else machine.alterFile location fun _ => []
      set { shell.withStream number (.file location) with machine := emptied }
      return true

def isAssignment (word : Word) : Bool := (Reading.assignment? word).isSome

def takesAssignments (words : List Word) : Bool :=
  match words with
  | first :: second :: _ =>
    let known (word : Word) : Bool := (Reading.plainText? word).any Builtin.takesAssignments
    known first || ((Reading.plainText? first) = some (Text.ofString "command") && known second)
  | _ => false

/-! ### Programs that run by themselves -/

def runTool (tool : Tool) (arguments : List Text) (environment : Environment) : Run Ending := do
  let shell ← get
  let outcome := tool {
    arguments
    environment
    input := shell.input.bytes
    readsFile := shell.input.isFile
    machine := shell.machine }
  let fed := if outcome.readsInput then shell.withInput [] else shell
  let after := ({ fed with machine := outcome.machine }.put 2 outcome.complaints)
  set (after.put 1 outcome.output)
  return .exited (if outcome.output.isEmpty || shell.isOpen 1 then outcome.code else 1)

mutual

def marksOf : (fuel : Nat) → Word → Run (List Mark)
  | 0, _ => exhausted
  | _, [] => return []
  | fuel + 1, piece :: rest => do
    let here ← marksOfPiece fuel piece
    return here ++ (← marksOf fuel rest)

def marksOfPiece : (fuel : Nat) → Piece → Run (List Mark)
  | 0, _ => exhausted
  | _, .text value quoted =>
    return if quoted then Mark.ofQuoted value else value.map (Mark.given · false)
  | _, .home => do
    return match (← get).values.get? "HOME" with
      | some home => Mark.ofQuoted home
      | none => [.given (.char '~') false]
  | fuel + 1, .length name quoted => do
    let value ← demandValue fuel name
    return Mark.ofValue quoted (Text.ofNat (Utf8.encode value).length)
  | fuel + 1, .trimmed name quoted trim pattern => do
    let value ← demandValue fuel name
    let marked := Mark.marked [] (← marksOf fuel pattern)
    return Mark.ofValue quoted (trim.apply (Pattern.ofMarked marked) value)
  | fuel + 1, .number expression quoted => do
    let text ← textOf fuel expression
    return Mark.ofValue quoted (Text.ofInt (← calculate fuel text))
  | fuel + 1, .output body quoted => do
    let bytes ← capture fuel (runAll false fuel body)
    let trimmed := (bytes.reverse.dropWhile (· = 0x0A)).reverse
    return Mark.ofValue quoted (Utf8.decode (trimmed.filter (· ≠ 0)))
  | fuel + 1, .variable name quoted substitute? => do
    let shell ← get
    let isAll := name = [.char '@'] || (name = [.char '*'] && !quoted)
    let known? := shell.value? name
    let value := if isAll then Mark.ofParameters quoted shell.parameters
      else Mark.ofValue quoted (known?.getD [])
    match substitute? with
    | none =>
      if known?.isNone && name ≠ [.char '@'] && name ≠ [.char '*'] then
        discard (demandValue fuel name)
      return value
    | some (kind, orEmpty, word) =>
      let isSet := known?.any fun text => !(orEmpty && text.isEmpty)
      let instead : Run (List Mark) := do
        let marks ← marksOf fuel word
        return if quoted then marks else Mark.loosened marks
      match kind with
      | .fallback => if isSet then return value else instead
      | .replace => if isSet then instead else return []
      | .demand =>
        if isSet then return value
        let wording ← textOf fuel word
        let reason : Text := if !wording.isEmpty then wording
          else if orEmpty then "parameter not set or null" else "parameter not set"
        complain (name ++ ": " ++ reason)
        finish Shell.misuse
      | .assign =>
        if isSet then return value
        let text ← textOf fuel word
        unless Shell.isName name do
          complain "Bad substitution"
          finish Shell.misuse
        assign name text
        return Mark.ofValue quoted text

def demandValue (fuel : Nat) (name : Text) : Run Text :=
  match fuel with
  | 0 => exhausted
  | _ + 1 => do
    let shell ← get
    match shell.value? name with
    | some value => return value
    | none =>
      if shell.rule 'u' && name ≠ [.char '@'] && name ≠ [.char '*'] then
        complain (name ++ ": parameter not set")
        finish Shell.misuse
      return []

def calculate (fuel : Nat) (text : Text) : Run Int :=
  match fuel with
  | 0 => exhausted
  | _ + 1 => do
    let shell ← get
    match (Arithmetic.valueOf text).run shell.values with
    | .ok value values =>
      for (name, new) in values.entries do
        if shell.values.get? name ≠ some new then assign name new
      return value
    | .error problem _ =>
      let reason : Text := match problem with
        | .dividedByZero => "division by zero"
        | .malformed => "arithmetic expression: expecting primary"
        | .notNumber value => "Illegal number: " ++ value
      complain (reason ++ ": \"" ++ text ++ "\"")
      finish Shell.misuse

def textOf (fuel : Nat) (word : Word) : Run Text :=
  match fuel with
  | 0 => exhausted
  | fuel + 1 => do
    let marks ← marksOf fuel word
    return Mark.text ((← get).separators.take 1) marks

def wordsOf (keepsAssignments : Bool) : (fuel : Nat) → List Word → Run (List Text)
  | 0, _ => exhausted
  | _, [] => return []
  | fuel + 1, word :: rest => do
    let here ← if keepsAssignments && isAssignment word then do pure [← textOf fuel word]
      else do
        let marks ← marksOf fuel word
        let shell ← get
        let words := Mark.words shell.separators marks
        pure (if shell.rule 'f' then words.map (·.map Prod.fst)
          else words.flatMap (spread shell.machine))
    return here ++ (← wordsOf keepsAssignments fuel rest)

def assignAll (exports : Bool) : (fuel : Nat) → List (Text × Word) → Run Unit
  | 0, _ => exhausted
  | _, [] => return
  | fuel + 1, (name, word) :: rest => do
    assign name (← textOf fuel word)
    if exports then modify (Shell.exportName name)
    assignAll exports fuel rest

def capture (fuel : Nat) (act : Run Unit) : Run Bytes :=
  match fuel with
  | 0 => exhausted
  | fuel + 1 => do
    let before ← get
    let (place, shell) := before.addBuffer {}
    set (shell.withStream 1 (.buffer place))
    restoring (fun after => { after with channels := before.channels }) (apart fuel act)
    let after ← get
    set { after.withoutBuffer place with status := before.status, substituted := after.status }
    return (after.buffer place).bytes

def toEnd (fuel : Nat) (act : Run Unit) : Run Ending :=
  match fuel with
  | 0 => exhausted
  | fuel + 1 => fun shell =>
    let (ending, after) := endingOf (act shell)
    match ending, after.traps.lookup 0 with
    | .exited code, some action =>
      let prepared := { after with
        traps := after.traps.filter (·.1 ≠ 0), status := code, loops := 0 }
      match runText fuel action prepared with
      | .ok () last => .ok (.exited code) last
      | result => .ok (endingOf result).1 (endingOf result).2
    | _, _ => .ok ending after

/-- Does something apart: what it does to the disk and what it puts out stays, but not what it
changes of variables and directory. -/
def apart (fuel : Nat) (act : Run Unit) : Run Unit :=
  match fuel with
  | 0 => exhausted
  | fuel + 1 => do
    let before ← get
    set { before with
      traps := before.traps.filter fun trap => trap.2.isEmpty
      jobs := []
      isPart := true
      sent := [] }
    let ending ← toEnd fuel act
    let after ← get
    set { leftBy after before with status := Shell.codeOf ending }
    if let .killed _ := ending then throw (.ended ending)
    after.sent.forM Builtin.signalScript

def answerSignals (fuel : Nat) : Run Unit :=
  match fuel with
  | 0 => exhausted
  | fuel + 1 => do
    let shell ← get
    match shell.pending with
    | [] => return
    | signal :: others =>
      set { shell with pending := others }
      runText fuel ((shell.traps.lookup signal).getD [])
      setStatus shell.status
      answerSignals fuel

def redirect : (fuel : Nat) → List (Redirection Word) → Run Bool
  | 0, _ => exhausted
  | _, [] => return true
  | fuel + 1, redirection :: rest => do
    let target ← textOf fuel redirection.target
    if ← openTarget redirection.number redirection.channel target then redirect fuel rest
    else return false

def runAll (tested : Bool) : (fuel : Nat) → List Command → Run Unit
  | 0, _ => exhausted
  | _, [] => return
  | fuel + 1, command :: rest => do
    run tested fuel command
    runAll tested fuel rest

def runBody (tested : Bool) (fuel : Nat) (body : List Command) : Run Unit :=
  match fuel with
  | 0 => exhausted
  | fuel + 1 => do
    if body.isEmpty then setStatus 0
    runAll tested fuel body

def run (tested : Bool) : (fuel : Nat) → Command → Run Unit
  | 0, _ => exhausted
  | fuel + 1, command => match command with
    | .simple linesBehind assigned words redirections => do
      modify fun shell => { shell with line := shell.lineEnds - linesBehind + 1 }
      runSimple tested fuel assigned words redirections
      answerSignals fuel
      settle tested
    | .redirected inner redirections => withOwnChannels do
      if ← redirect fuel redirections then run tested fuel inner
      else
        setStatus Shell.misuse
        settle tested
    | .group body => runBody tested fuel body
    | .enclosed body => do
      apart fuel (runBody tested fuel body)
      settle tested
    | .background inner => do
      let before ← get
      let process := before.nextProcess
      let (place, shell) := before.addBuffer {}
      set ({ shell with nextProcess := process + 1 }.withStream 0 (.buffer place))
      restoring (fun after => { after with channels := before.channels })
        (apart fuel (run false fuel inner))
      let after ← get
      set { after.withoutBuffer place with
        jobs := (process, after.status) :: after.jobs, lastJob? := some process, status := 0 }
    | .negated inner => do
      run true fuel inner
      setStatus (if (← get).status = 0 then 1 else 0)
    | .define name body => do
      modify fun shell => { shell with
        functions := (name, body) :: shell.functions.filter (·.1 ≠ name), status := 0 }
    | .andThen first second => do
      run true fuel first
      if (← get).status = 0 then run tested fuel second
    | .orElse first second => do
      run true fuel first
      if (← get).status ≠ 0 then run tested fuel second
    | .piped first second => do
      let bytes ← capture fuel (run tested fuel first)
      let before ← get
      let (place, shell) := before.addBuffer { bytes }
      set (shell.withStream 0 (.buffer place))
      restoring (fun after => { after with channels := before.channels })
        (apart fuel (run tested fuel second))
      modify (Shell.withoutBuffer place)
      settle tested
    | .choose branches otherwise => choose tested fuel branches otherwise
    | .loop whileSuccess condition body => repeatLoop tested whileSuccess condition body none fuel
    | .forEach name words? body => do
      let values ← match words? with
        | some words => wordsOf false fuel words
        | none => pure (← get).parameters
      setStatus 0
      eachOf tested fuel name values body
    | .select subject arms => do
      let text ← textOf fuel subject
      selectArm tested fuel text arms

def choose (tested : Bool) : (fuel : Nat) → List (List Command × List Command) → List Command →
    Run Unit
  | 0, _, _ => exhausted
  | fuel + 1, [], otherwise => do
    if otherwise.isEmpty then setStatus 0 else runAll tested fuel otherwise
  | fuel + 1, (condition, body) :: others, otherwise => do
    runBody true fuel condition
    if (← get).status = 0 then runBody tested fuel body else choose tested fuel others otherwise

def repeatLoop (tested whileSuccess : Bool) (condition body : List Command) (last? : Option Nat) :
    (fuel : Nat) → Run Unit
  | 0 => exhausted
  | fuel + 1 => do
    let goesOn ← round do
      runBody true fuel condition
      if decide ((← get).status = 0) == whileSuccess then runBody tested fuel body
      else
        setStatus (last?.getD 0)
        throw (.leave 1)
    if goesOn then repeatLoop tested whileSuccess condition body (some (← get).status) fuel

def eachOf (tested : Bool) : (fuel : Nat) → Text → List Text → List Command → Run Unit
  | 0, _, _, _ => exhausted
  | _, _, [], _ => return
  | fuel + 1, name, value :: values, body => do
    assign name value
    if ← round (runBody tested fuel body) then eachOf tested fuel name values body

def selectArm (tested : Bool) : (fuel : Nat) → Text → List (List Word × List Command) → Run Unit
  | 0, _, _ => exhausted
  | _, _, [] => setStatus 0
  | fuel + 1, text, (patterns, body) :: others => do
    if ← fitsAny fuel text patterns then runBody tested fuel body
    else selectArm tested fuel text others

def fitsAny : (fuel : Nat) → Text → List Word → Run Bool
  | 0, _, _ => exhausted
  | _, _, [] => return false
  | fuel + 1, text, pattern :: others => do
    let marks ← marksOf fuel pattern
    let marked := Mark.marked ((← get).separators.take 1) marks
    if Pattern.fits (Pattern.ofMarked marked) text then return true
    fitsAny fuel text others

/-- Words come first, then redirections, then assignments. Without a command both assignments and,
for one command, redirections last; with one they are for it alone. -/
def runSimple (tested : Bool) : (fuel : Nat) → List (Text × Word) → List Word →
    List (Redirection Word) → Run Unit
  | 0, _, _, _ => exhausted
  | fuel + 1, assigned, words, redirections => do
    modify fun shell => { shell with substituted := 0 }
    let arguments ← wordsOf (takesAssignments words) fuel words
    match arguments with
    | [] => withOwnChannels do
      if ← redirect fuel redirections then
        assignAll false fuel assigned
        setStatus (← get).substituted
      else setStatus Shell.misuse
    | name :: rest =>
      let isSpecial := Builtin.isSpecial name
      if name = Text.ofString "exec" && rest.isEmpty then
        if ← redirect fuel redirections then
          assignAll false fuel assigned
          setStatus 0
        else
          setStatus Shell.misuse
          throw .failed
      else withOwnChannels do
        if ← redirect fuel redirections then
          if isSpecial then
            assignAll false fuel assigned
            runCommand tested true fuel name rest
          else withAssignments (assigned.map Prod.fst) do
            assignAll true fuel assigned
            runCommand tested true fuel name rest
        else
          setStatus Shell.misuse
          if isSpecial then throw .failed

def runCommand (tested named : Bool) : (fuel : Nat) → Text → List Text → Run Unit
  | 0, _, _ => exhausted
  | fuel + 1, name, arguments => do
    let shell ← get
    let isSpecial := Builtin.isSpecial name
    match if named && !isSpecial then shell.functions.lookup name else none with
    | some body => called arguments (run tested fuel body)
    | none => match Builtin.find? name, name.toString? with
      | some act, _ => if isSpecial && named then act arguments else mayFail (act arguments)
      | none, some "eval" => do
        let text := Text.join " " arguments
        if text.isEmpty then setStatus 0
        runText fuel text
      | none, some "." => runFile fuel arguments
      | none, some "type" => Builtin.describe false arguments
      | none, some "command" => match arguments with
        | [] => setStatus 0
        | inner :: rest => match inner.toString? with
          | some "-v" => Builtin.describe true (rest.take 1)
          | some "-V" => Builtin.describe false (rest.take 1)
          | some "-p" | some "--" => match rest with
            | [] => setStatus 0
            | inner :: rest => runCommand tested false fuel inner rest
          | _ => runCommand tested false fuel inner rest
      | none, some "exec" => do
        modify fun shell => { shell with traps := [] }
        let ending ← runProgram fuel arguments
        throw (.ended ending)
      | none, _ => do
        let ending ← runProgram fuel (name :: arguments)
        setStatus (Shell.codeOf ending)

def runFile : (fuel : Nat) → List Text → Run Unit
  | 0, _ => exhausted
  | fuel + 1, arguments => do
    match arguments with
    | [] => setStatus 0
    | name :: _ =>
      let shell ← get
      let searchPath := (shell.values.get? searchPathName).getD usualSearchPath
      match (candidates searchPath name).findSome? fun path =>
          (shell.machine.content path).toOption with
      | none =>
        complain (".: " ++ (if name.contains slash then
          "cannot open " ++ name ++ ": No such file" else name ++ ": not found"))
        finish Shell.misuse
      | some bytes =>
        setStatus 0
        fun shell => match runText fuel (Utf8.decode bytes) shell with
          | .error .returned after => .ok () after
          | result => result

def runProgram : (fuel : Nat) → List Text → Run Ending
  | 0, _ => exhausted
  | fuel + 1, arguments => do
    let shell ← get
    let environment := shell.environment
    let name := arguments.headD []
    let searchPath := (shell.values.get? searchPathName).getD []
    let setting : Setting := { environment, process := shell.nextProcess }
    set { shell with nextProcess := shell.nextProcess + 1 }
    match shell.machine.invocation arguments (environment.set searchPathName searchPath) with
    | .ok invocation => perform fuel invocation setting
    | .error (.system .execFormat _) => match bareScript? shell.machine searchPath name with
      | some (path, bytes) =>
        runScript fuel setting path (arguments.drop 1) [] (Utf8.decode bytes)
      | none =>
        complain (name ++ ": Exec format error")
        return .exited 126
    | .error fault =>
      complain (name ++ ": " ++ startFailure fault)
      return .exited (if name.isEmpty then 127 else startFailureCode fault)

def runLines : (fuel : Nat) → Text → Run Unit
  | 0, _ => exhausted
  | fuel + 1, script => match nextLine script with
    | none => do
      complain "Syntax error"
      setStatus Shell.misuse
      throw .failed
    | some ([], _) => return
    | some (commands, rest) => do
      unless (← get).rule 'n' do runAll false fuel commands
      runLines fuel rest

def runText : (fuel : Nat) → Text → Run Unit
  | 0, _ => exhausted
  | fuel + 1, script => fun shell =>
    restoring (fun after => { after with lineEnds := shell.lineEnds, line := shell.line })
      (runLines fuel script) { shell with lineEnds := script.countP (· == .char '\n') }

def runScript (fuel : Nat) (setting : Setting) (name : Text) (parameters : List Text)
    (rules : List Char) (script : Text) : Run Ending :=
  match fuel with
  | 0 => exhausted
  | fuel + 1 => do
    let outer ← get
    set { Shell.start outer.machine setting.environment setting.process name parameters with
      channels := outer.channels
      buffers := outer.buffers
      nextBuffer := outer.nextBuffer
      nextProcess := max outer.nextProcess (setting.process + 1)
      mask := outer.mask
      rules
      isLiteral := outer.isLiteral }
    let ending ← toEnd fuel (runText fuel script)
    set (leftBy (← get) outer)
    return ending

def perform (fuel : Nat) (invocation : Machine.Invocation) (setting : Setting) : Run Ending :=
  match fuel with
  | 0 => exhausted
  | fuel + 1 => do
    let (program, arguments) := (invocation.program, invocation.arguments)
    match program with
    | "sh" | "dash" | "bash" => do
      let before := (← get).isLiteral
      modify fun shell => { shell with isLiteral := program = "bash" }
      let ending ← performShell fuel (Text.ofString program) arguments setting
      modify fun shell => { shell with isLiteral := before }
      return ending
    | "env" => match startOf? setting.environment (arguments.length + 2) arguments with
      | none => return .exited 125
      | some start =>
        if start.command.isEmpty then
          modify (Shell.put 1 (Tool.environmentLines start.environment))
          return .exited 0
        performCommand fuel "env" start.command { setting with environment := start.environment }
    | "timeout" => match arguments with
      | _ :: command => performCommand fuel "timeout" command setting
      | [] => return .exited 125
    | "xargs" => match Tool.Options.read? inputCommandOptions arguments with
      | none => return .exited 1
      | some options =>
        let shell ← get
        let commands := inputCommands options (Utf8.decode shell.input.bytes)
        set (shell.withInput [])
        return .exited (joinedCode (← performEach fuel commands setting))
    | _ => match Tool.table.lookup program with
      | some tool => runTool tool arguments setting.environment
      | none => return .exited 127

def performCommand (fuel : Nat) (program : String) (command : List Text) (setting : Setting) :
    Run Ending :=
  match fuel with
  | 0 => exhausted
  | fuel + 1 => do
    let shell ← get
    match shell.machine.invocation command setting.environment with
    | .ok invocation => perform fuel invocation setting
    | .error (.system .execFormat _) =>
      let searchPath := (setting.environment.get? searchPathName).getD usualSearchPath
      match bareScript? shell.machine searchPath (command.headD []) with
      | some (path, bytes) =>
        runScript fuel setting path (command.drop 1) [] (Utf8.decode bytes)
      | none => return .exited 126
    | .error fault =>
      modify (Shell.put 2 (Tool.fileComplaint program
        ("\x27" ++ command.headD [] ++ "\x27") fault))
      return .exited (startFailureCode fault)

def performEach : (fuel : Nat) → List (List Text) → Setting → Run (List Nat)
  | 0, _, _ => exhausted
  | _, [], _ => return []
  | fuel + 1, command :: rest, setting => do
    let ending ← performCommand fuel "xargs" command setting
    return Shell.codeOf ending :: (← performEach fuel rest setting)

def performShell (fuel : Nat) (program : Text) (arguments : List Text) (setting : Setting) :
    Run Ending :=
  match fuel with
  | 0 => exhausted
  | fuel + 1 => do
    let outer ← get
    set { outer with rules := [] }
    let call ← fun shell => match Builtin.readRules true (arguments.length + 1) arguments shell with
      | .ok result after => .ok (some result) after
      | .error _ after => .ok none after
    let rules := (← get).rules
    modify fun shell => { shell with rules := outer.rules }
    match call with
    | none => return .exited Shell.misuse
    | some (special, operands, _) => match special.contains 'c', operands with
      | true, [] => return .exited Shell.misuse
      | true, script :: rest =>
        runScript fuel setting (rest.headD program) (rest.drop 1) rules script
      | false, operands =>
        if operands.isEmpty || rules.contains 's' then
          let bytes := outer.input.bytes
          modify (Shell.withInput [])
          runScript fuel setting program operands
            (if rules.contains 's' then rules else 's' :: rules) (Utf8.decode bytes)
        else
          let file := operands.headD []
          match outer.machine.content file with
          | .ok bytes =>
            runScript fuel setting file (operands.drop 1) rules (Utf8.decode bytes)
          | .error (.system .isDirectory _) => return .exited 0
          | .error fault =>
            modify (Shell.put 2 (Tool.line (program ++ ": 0: cannot open " ++ file ++ ": " ++
              (match fault with
              | .system .notFound _ => "No such file"
              | other => startFailure other))))
            return .exited Shell.misuse

end

def depthLimit : Nat := 20000

end GenWalk.Script
