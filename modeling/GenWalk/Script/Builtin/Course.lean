import GenWalk.Script.Builtin.Variables

/-!
Commands of scripts that deal with the course of a script: leaving it or a part of it, signals,
other processes, and the working directory.
-/

namespace GenWalk.Script.Builtin

/-! ### Leaving -/

def exit (arguments : List Text) : Run Unit := do
  match arguments with
  | [] => finish (← get).status
  | code :: _ => finish ((← number code) % 256)

def returnWith (arguments : List Text) : Run Unit := do
  if let some code := arguments.head? then setStatus ((← number code) % 256)
  throw .returned

def loopControl (stop : Nat → Break) (arguments : List Text) : Run Unit := do
  let count ← match arguments with
    | [] => pure 1
    | text :: _ => number text
  if count = 0 then failWith "Illegal number: 0"
  setStatus 0
  let shell ← get
  if shell.loops ≠ 0 then throw (stop (min shell.loops count))

/-! ### Signals -/

/-- Signals that change nothing about a process that has made no arrangements for them. -/
def harmlessSignals : List Nat := [17, 18, 19, 20, 21, 22, 23, 28]

def signal? (text : Text) : Option Nat :=
  match Numeral.decimal? text with
  | some number => if number ≤ 64 then some number else none
  | none =>
    let wanted := ((text.toString?.getD "").toList.map Char.toUpper) |> String.ofList
    if wanted = "EXIT" then some 0
    else (Ending.signalNames.find? fun entry => entry.2 == "SIG" ++ wanted).map Prod.fst

def signalName (signal : Nat) : Text :=
  if signal = 0 then "EXIT"
  else match Ending.signalNames.lookup signal with
    | some name => Text.ofString (String.ofList (name.toList.drop 3))
    | none => Text.ofNat signal

/-- A signal that a script sends to itself: arrangements are kept for later, and all that is not
harmless ends the script otherwise. -/
def signalSelf (signal : Nat) : Run Unit := do
  let shell ← get
  match if signal = 9 then none else shell.traps.lookup signal with
  | some action =>
    unless action.isEmpty do set { shell with pending := shell.pending ++ [signal] }
  | none =>
    unless signal = 0 || harmlessSignals.contains signal do throw (.ended (.killed signal))

def signalScript (signal : Nat) : Run Unit := do
  let shell ← get
  if shell.isPart then set { shell with sent := shell.sent ++ [signal] } else signalSelf signal

def signalJob (signal process : Nat) : Run Bool := do
  let shell ← get
  if shell.jobs.any (·.1 = process) then
    unless signal = 0 || harmlessSignals.contains signal do
      let jobs := shell.jobs.map fun job =>
        if job.1 = process then (process, Shell.killedCode signal) else job
      set { shell with jobs }
    return true
  return false

def kill (arguments : List Text) : Run Unit := do
  let (signal?, processes) := match arguments with
    | flag :: rest =>
      if flag = Text.ofString "-s" then ((signal? (rest.headD [])), rest.drop 1)
      else if flag = Text.ofString "--" then (some 15, rest)
      else if flag.head? = some (Glyph.char '-') then (signal? (flag.drop 1), rest)
      else (some 15, arguments)
    | [] => (none, [])
  let processes := if processes.head? = some (Text.ofString "--") then processes.drop 1
    else processes
  match signal? with
  | none =>
    let letter := ((arguments.headD []).drop 1).take 1
    failWith (if letter.all (·.satisfies Char.isDigit) then "invalid signal number or name"
      else "Illegal option -" ++ letter)
  | some signal =>
    if processes.isEmpty then failWith "usage"
    setStatus 0
    for process in processes do
      let shell ← get
      if process = Text.ofNat shell.process then signalScript signal
      else unless ← signalJob signal ((Numeral.decimal? process).getD 0) do
        complain "No such process\n"
        setStatus 1

def trap (arguments : List Text) : Run Unit := do
  let arguments := if arguments.head? = some (Text.ofString "--") then arguments.drop 1
    else arguments
  match arguments with
  | [] =>
    let shell ← get
    let sorted := shell.traps.mergeSort fun first second => first.1 ≤ second.1
    set { shell.put 1 (sorted.flatMap fun (signal, action) =>
      Machine.Tool.line ("trap -- " ++ quoted action ++ " " ++ signalName signal)) with
        status := 0 }
  | first :: rest =>
    let isReset := rest.isEmpty || (signal? first).isSome
    let action? := if isReset || first = Text.ofString "-" then none else some first
    setStatus 0
    for name in if isReset then arguments else rest do
      match signal? name with
      | none =>
        modify fun shell => shell.put 2 (Machine.Tool.line ("trap: " ++ name ++ ": bad trap"))
        setStatus 1
      | some signal => modify fun shell =>
          let others := shell.traps.filter (·.1 ≠ signal)
          { shell with traps := match action? with
            | some action => (signal, action) :: others
            | none => others }

/-! ### Processes -/

def wait (arguments : List Text) : Run Unit := do
  match arguments with
  | [] => modify fun shell => { shell with jobs := [], status := 0 }
  | processes =>
    for process in processes do
      let shell ← get
      let number := (Numeral.decimal? process).getD 0
      let status := match shell.jobs.lookup number with
        | some code => code
        | none => 127
      set { shell with jobs := shell.jobs.filter (·.1 ≠ number), status }

def mask (arguments : List Text) : Run Unit := do
  let shell ← get
  let letters (bits : Nat) : Text :=
    (if Nat.land bits 4 = 0 then "" else "r" : Text) ++
      (if Nat.land bits 2 = 0 then "" else "w" : Text) ++
      (if Nat.land bits 1 = 0 then "" else "x" : Text)
  let granted := 0o777 - shell.mask
  match arguments with
  | [] =>
    let digits := Nat.toDigits 8 (0o10000 + shell.mask)
    set { shell.put 1 (Machine.Tool.line (digits.tail.map Glyph.char)) with status := 0 }
  | text :: _ =>
    if text = Text.ofString "-S" then
      let shown : Text := "u=" ++ letters (granted / 64) ++ ",g=" ++ letters (granted / 8 % 8) ++
        ",o=" ++ letters (granted % 8)
      set { shell.put 1 (Machine.Tool.line shown) with status := 0 }
    else if text.all fun glyph => (Numeral.digit? 8 glyph).isSome then
      set { shell with mask := Nat.land (Numeral.ofText 8 text) 0o777, status := 0 }
    else if text.head?.any (·.satisfies Char.isDigit) then failWith ("Illegal number: " ++ text)
    else match Machine.Tool.Mode.change? text false granted with
      | some granted => set { shell with mask := 0o777 - Nat.land granted 0o777, status := 0 }
      | none => failWith ("Illegal mode: " ++ text)

/-! ### The working directory -/

/-- Another working directory: one that is named, the last one, or the one of the user. Pairs of
dots are worked out by name, unless real paths are wanted. -/
def changeDirectory (arguments : List Text) : Run Unit := do
  let shell ← get
  let flags := arguments.takeWhile fun argument =>
    argument = Text.ofString "-P" || argument = Text.ofString "-L" || argument = Text.ofString "--"
  let isReal := flags.getLast? = some (Text.ofString "-P")
  let valueOf (name : Text) : Text := (shell.values.get? name).getD []
  let (target, shows) := match (arguments.drop flags.length).head? with
    | none => (valueOf "HOME", false)
    | some path =>
      if path = Text.ofString "-" then (valueOf "OLDPWD", true) else (path, false)
  let logical := ((Path.ofText shell.directory).join (.ofText target)).normalized.toText
  match shell.machine.findEntry true (if isReal && !target.isEmpty then target else logical) with
  | .ok (location, .directory _) =>
    let path := if isReal then (Lookup.pathTo location).toText else logical
    if !(shell.machine.viewer.privileged || (shell.machine.findEntry true path).toOption.any
        fun entry => shell.machine.viewer.may .pass entry.2) then
      failWith ("can\x27t cd to " ++ target)
    set (shell.moveTo location path)
    modify fun shell => ((shell.set "OLDPWD" shell.directory).exportName "OLDPWD")
    modify fun after => (after.set "OLDPWD" shell.directory).set "PWD" path
    modify (Shell.exportName "PWD")
    if shows then modify fun shell => shell.put 1 (Machine.Tool.line path)
    setStatus 0
  | _ => failWith ("can\x27t cd to " ++ target)

def showDirectory (arguments : List Text) : Run Unit :=
  modify fun shell =>
    let path := if arguments.head? = some (Text.ofString "-P") then
      (Lookup.pathTo shell.machine.directory).toText else shell.directory
    { shell.put 1 (Machine.Tool.line path) with status := 0 }

end GenWalk.Script.Builtin
