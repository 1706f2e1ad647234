import GenWalk.Ending
import GenWalk.Machine.Files
import GenWalk.Machine.Tool
import GenWalk.Script.Arithmetic
import GenWalk.Script.Reader

/-!
The state of a running script: a machine, variables, parameters, and where its channels lead.
-/

namespace GenWalk.Script

/-- Where a channel leads. -/
inductive Stream where
  | buffer (number : Nat)
  | nowhere
  | file (location : Location)
deriving DecidableEq, Inhabited

structure Buffer where
  bytes : Bytes := []
  isFile : Bool := false
deriving DecidableEq, Inhabited

structure Saved where
  name : Text
  value? : Option Text
  isExported : Bool
deriving DecidableEq, Inhabited

structure Shell where
  machine : Machine
  values : Environment := .empty
  exported : List Text := []
  fixed : List Text := []
  name : Text := "sh"
  parameters : List Text := []
  lineEnds : Nat := 0
  line : Nat := 1
  command? : Option Text := none
  status : Nat := 0
  substituted : Nat := 0
  process : Nat := 2
  nextProcess : Nat := 3
  jobs : List (Nat × Nat) := []
  lastJob? : Option Nat := none
  channels : List (Nat × Stream) := [(0, .buffer 0), (1, .buffer 1), (2, .nowhere)]
  buffers : List (Nat × Buffer) := []
  nextBuffer : Nat := 2
  functions : List (Text × Command) := []
  loops : Nat := 0
  isPart : Bool := false
  sent : List Nat := []
  rules : List Char := []
  traps : List (Nat × Text) := []
  pending : List Nat := []
  saved? : Option (List Saved) := none
  directory : Text := "/"
  mask : Nat := 0o022
  optionOffset : Nat := 0
  isLiteral : Bool := false
deriving Inhabited

/-- What stops the course of a script. -/
inductive Break where
  | ended (ending : Ending)
  | failed
  | returned
  | leave (loops : Nat)
  | again (loops : Nat)

abbrev Run (α : Type) := EStateM Break Shell α

namespace Shell

def misuse : Nat := 2

def killedCode (signal : Nat) : Nat := 128 + signal

def codeOf : Ending → Nat
  | .exited code => code
  | .killed signal => killedCode signal

def rule (shell : Shell) (letter : Char) : Bool := shell.rules.contains letter

/-! ### Variables -/

def usualSeparators : Text := " \t\n"

def separators (shell : Shell) : Text := (shell.values.get? "IFS").getD usualSeparators

def ruleLetters : List Char := "ueIimnsxvVECabqfl".toList

def shownRules (shell : Shell) : Text :=
  (ruleLetters.filter shell.rule).map Glyph.char

def allParameters (shell : Shell) : Text :=
  Text.join (shell.separators.take 1) shell.parameters

def value? (shell : Shell) (name : Text) : Option Text :=
  match name with
  | [.char '?'] => some (Text.ofNat shell.status)
  | [.char '#'] => some (Text.ofNat shell.parameters.length)
  | [.char '$'] => some (Text.ofNat shell.process)
  | [.char '-'] => some shell.shownRules
  | [.char '!'] => shell.lastJob?.map Text.ofNat
  | [.char '@'] | [.char '*'] =>
    if shell.parameters.isEmpty then none else some shell.allParameters
  | _ =>
    match Numeral.decimal? name with
    | some 0 => some shell.name
    | some position => shell.parameters[position - 1]?
    | none => shell.values.get? name

def set (name value : Text) (shell : Shell) : Shell :=
  let offset := if name = Text.ofString "OPTIND" then 0 else shell.optionOffset
  let exported := if shell.rule 'a' && !shell.exported.contains name then shell.exported ++ [name]
    else shell.exported
  { shell with values := shell.values.set name value, optionOffset := offset, exported }

def exportName (name : Text) (shell : Shell) : Shell :=
  if shell.exported.contains name then shell
  else { shell with exported := shell.exported ++ [name] }

def unset (name : Text) (shell : Shell) : Shell :=
  { shell with
    values := .ofList (shell.values.entries.filter (·.1 ≠ name))
    exported := shell.exported.filter (· ≠ name) }

def save (shell : Shell) (name : Text) : Saved where
  name
  value? := shell.values.get? name
  isExported := shell.exported.contains name

def restore (shell : Shell) (saved : Saved) : Shell :=
  let cleared := { shell with exported := shell.exported.filter (· ≠ saved.name) }
  let valued := match saved.value? with
    | some value => { cleared with values := cleared.values.set saved.name value }
    | none => cleared.unset saved.name
  if saved.isExported then valued.exportName saved.name else valued

def slot (name : Text) : Nat :=
  let bytes := (Utf8.encode name).map UInt8.toNat
  bytes.foldl (· + ·) (bytes.headD 0 * 16) % 39

def environment (shell : Shell) : Environment :=
  let entries := shell.values.entries.filter fun entry => shell.exported.contains entry.1
  .ofList (entries.mergeSort fun first second => slot first.1 ≤ slot second.1)

def isName (text : Text) : Bool :=
  match text with
  | .char first :: rest =>
    Template.isNameStart first && rest.all (·.satisfies Template.isNamePart)
  | _ => false

def usualPath : Text := "/usr/local/sbin:/usr/local/bin:/usr/sbin:/usr/bin:/sbin:/bin"

def usualValues (machine : Machine) (process : Nat) : List (Text × Text) := [
  ("IFS", usualSeparators), ("OPTIND", "1"), ("PS1", if machine.privileged then "# " else "$ "),
  ("PS2", "> "), ("PS4", "+ "), ("PPID", Text.ofNat (process - 1))]

def directoryOf (machine : Machine) (environment : Environment) : Text :=
  let real := (Lookup.pathTo machine.directory).toText
  match environment.get? "PWD" with
  | some path =>
    if path.head? = some slash &&
        (machine.findEntry true path).toOption.any (·.1 = machine.directory) then path
    else real
  | none => real

def start (machine : Machine) (environment : Environment) (process : Nat) (name : Text)
    (parameters : List Text) : Shell :=
  let known := environment.entries.filter fun entry => isName entry.1
  let directory := directoryOf machine environment
  let path := (environment.get? "PATH").getD usualPath
  { machine
    values := ((Environment.ofList (("PATH", path) :: known)).setAll
      (usualValues machine process)).set "PWD" directory
    exported := (known.map Prod.fst).filter (· ≠ Text.ofString "PWD") ++ [Text.ofString "PWD"]
    name
    parameters
    process
    nextProcess := process + 1
    directory }

/-! ### Channels -/

def stream (shell : Shell) (number : Nat) : Stream :=
  (shell.channels.lookup number).getD .nowhere

def withStream (number : Nat) (stream : Stream) (shell : Shell) : Shell :=
  { shell with channels := (number, stream) :: shell.channels.filter (·.1 ≠ number) }

def closed (number : Nat) (shell : Shell) : Shell :=
  { shell with channels := shell.channels.filter (·.1 ≠ number) }

def isOpen (shell : Shell) (number : Nat) : Bool := shell.channels.any (·.1 = number)

def buffer (shell : Shell) (number : Nat) : Buffer := (shell.buffers.lookup number).getD {}

def withBuffer (number : Nat) (buffer : Buffer) (shell : Shell) : Shell :=
  { shell with buffers := (number, buffer) :: shell.buffers.filter (·.1 ≠ number) }

def withoutBuffer (number : Nat) (shell : Shell) : Shell :=
  { shell with buffers := shell.buffers.filter (·.1 ≠ number) }

def addBuffer (buffer : Buffer) (shell : Shell) : Nat × Shell :=
  (shell.nextBuffer, { shell.withBuffer shell.nextBuffer buffer with
    nextBuffer := shell.nextBuffer + 1 })

def put (number : Nat) (bytes : Bytes) (shell : Shell) : Shell :=
  match shell.stream number with
  | .buffer target =>
    let old := shell.buffer target
    shell.withBuffer target { old with bytes := old.bytes ++ bytes }
  | .nowhere => shell
  | .file location => { shell with machine := shell.machine.alterFile location (· ++ bytes) }

def input (shell : Shell) : Buffer :=
  match shell.stream 0 with
  | .buffer number => shell.buffer number
  | _ => {}

def withInput (bytes : Bytes) (shell : Shell) : Shell :=
  match shell.stream 0 with
  | .buffer number => shell.withBuffer number { shell.buffer number with bytes }
  | _ => shell

def moveTo (location : Location) (path : Text) (shell : Shell) : Shell :=
  { shell with machine := { shell.machine with directory := location }, directory := path }

end Shell

def setStatus (code : Nat) : Run Unit := modify fun shell => { shell with status := code }

def finish (code : Nat) : Run α := throw (.ended (.exited code))

def complain (text : Text) : Run Unit :=
  modify fun shell =>
    let command := match shell.command? with
      | some name => name ++ ": "
      | none => []
    shell.put 2 (Machine.Tool.line
      (shell.name ++ ": " ++ Text.ofNat shell.line ++ ": " ++ command ++ text))

def failWith (text : Text) : Run α := do
  complain text
  setStatus Shell.misuse
  throw .failed

def assign (name value : Text) : Run Unit := do
  if (← get).fixed.contains name then failWith (name ++ ": is read only")
  modify (Shell.set name value)

end GenWalk.Script
