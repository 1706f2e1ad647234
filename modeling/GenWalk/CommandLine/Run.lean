import GenWalk.CommandLine.Arguments
import GenWalk.CommandLine.Report

/-!
The command line: from arguments to what is put out and the code at the end.
-/

namespace GenWalk.CommandLine

structure Workplace (World : Type) where
  host : Host World
  setupLog : LogRequest → Query World Unit
  processes : Adapter World
  mock : Adapter World

/-- What no command answers for. -/
inductive Crash where
  | refused (fault : Fault)
  | config (failure : ConfigFailure)
  | unprintable

def Crash.message : Crash → Text
  | refused fault => fault.message
  | config (.problem problem) => problem.message
  | config (.refused fault) => fault.message
  | config .notUnicode => "The configuration is not Unicode"
  | config (.misfit misfit) => misfit.message
  | unprintable => "A text that is not Unicode cannot be put out"

inductive Stop where
  | exit (code : Nat)
  | misused (command : Command) (misuse : Misuse)
  | crashed (crash : Crash)

abbrev Course (World α : Type) := EStateM Stop (World × Text) α

structure Outcome where
  exitCode : Nat
  output : Text
  complaint : Text := []
  crash? : Option Crash := none

def misuseCode : Nat := 2

def versionLine : Text := "helmgen, version 0.1.0"

namespace Course

variable {World : Type}

def ask (query : Query World α) : Course World α := fun (world, output) =>
  match query world with
  | .ok answer after => .ok answer (after, output)
  | .error fault after => .error (.crashed (.refused fault)) (after, output)

def load (loading : Config.Loading World α) : Course World α := fun (world, output) =>
  match loading world with
  | .ok answer after => .ok answer (after, output)
  | .error failure after => .error (.crashed (.config failure)) (after, output)

def put (colored : Bool) (prints : List Print) : Course World Unit :=
  prints.forM fun print => do
    let shown := print.shown colored
    if shown.isClean then modify fun (world, output) => (world, output ++ shown)
    else throw (.crashed .unprintable)

end Course

variable {World : Type}

def isReadable (host : Host World) (path : Path) (kind : EntryKind) : Query World Bool :=
  fun world => match kind with
    | .directory => match host.names path world with
      | .ok _ after => .ok true after
      | .error _ after => .ok false after
    | _ => match host.content path world with
      | .ok _ after => .ok true after
      | .error _ after => .ok false after

def pathMisuse? (host : Host World) (parameter : Text) (demand : PathDemand) (text : Text) :
    Query World (Option Misuse) := fun world =>
  if text.isEmpty then .ok none world
  else match host.target (Path.literal text) world with
    | .error (.system _ _) after => .ok none after
    | .error fault after => .error fault after
    | .ok kind after =>
      if (demand = .file && kind = .directory) || (demand = .directory && kind = .file) then
        .ok (some (.wrongKind parameter demand text)) after
      else match isReadable host (Path.literal text) kind after with
        | .ok true after => .ok none after
        | .ok false after => .ok (some (.unreadable parameter demand text)) after
        | .error fault after => .error fault after

def demandPath (host : Host World) (command : Command) (parameter : Text) (demand : PathDemand)
    (text : Text) : Course World Unit := do
  if let some misuse ← Course.ask (pathMisuse? host parameter demand text) then
    throw (.misused command misuse)

def configParameter : Text := "'--config' / '-c'"
def directoryParameter : Text := "'[DIRECTORY]'"

/-- Reads the arguments of a command. Version and help are answered at once, the first of them that
is asked for. -/
def readArguments (colored : Bool) (command : Command) (arguments : List Text) :
    Course World Arguments := do
  match Arguments.read (OptionForm.ofCommand command) (!command.isGroup) arguments with
  | .error misuse => throw (.misused command misuse)
  | .ok arguments =>
    let first? := arguments.wishes.find? fun wish => wish.1 = .version || wish.1 = .help
    match first?.map Prod.fst with
    | none => return arguments
    | some wish =>
      Course.put colored [line (if wish = .version then versionLine else command.usage)]
      throw (.exit 0)

def readGroup (host : Host World) (colored : Bool) (group : Command) (arguments : List Text) :
    Course World Arguments := do
  let arguments ← readArguments colored group arguments
  if let some path := arguments.value? .config then
    demandPath host group configParameter .file path
  return arguments

/-- The command in a group that is called, and its arguments. A word that looks like an option is
read as one, with all that comes after it, before it is refused. -/
def member (host : Host World) (colored : Bool) (group : Command) (operands : List Text) :
    Course World (Command × List Text) :=
  match operands with
  | [] => throw (.misused group .missingCommand)
  | name :: rest => match group.members.lookup name with
    | some command => return (command, rest)
    | none => do
      if name.head? = some Arguments.dash then
        discard (readGroup host colored group operands)
      throw (.misused group (.noSuchCommand name (name.closest (group.members.map Prod.fst))))

def directoryOf (host : Host World) (command : Command) (demand : PathDemand)
    (arguments : Arguments) : Course World Text := do
  let directory := arguments.operands.headD "."
  demandPath host command directoryParameter demand directory
  unless arguments.operands.length ≤ 1 do
    throw (.misused command (.extraArguments (arguments.operands.drop 1)))
  return directory

def configOf (shared : Arguments) : Option Path :=
  ((shared.value? .config).filter (!·.isEmpty)).map Path.ofText

def runGenerate (place : Workplace World) (colored : Bool) (shared : Arguments)
    (arguments : List Text) : Course World Nat := do
  let own ← readArguments colored .generate arguments
  let directory ← directoryOf place.host .generate .any own
  let view : RunView := {
    json := own.has .json
    dryRun := own.has .dryRun
    mock := own.has .mock
    verbose := shared.has .verbose
    quiet := shared.has .quiet }
  let adapter := if view.mock then place.mock else place.processes
  let request : GenerateRequest :=
    { directory, config := configOf shared, dryRun := view.dryRun }
  let result ← Course.load (Generate.run place.host adapter request)
  Course.put colored (view.prints result)
  return RunView.exitCode result

def runCheck (place : Workplace World) (colored : Bool) (shared : Arguments)
    (arguments : List Text) : Course World Nat := do
  let own ← readArguments colored .check arguments
  let directory ← directoryOf place.host .check .directory own
  let check ← Course.load
    (ConfigCheck.run place.host (configOf shared) (Path.ofText directory))
  Course.put colored (CheckView.prints (own.has .json) check)
  return CheckView.exitCode check

def verbosityOf (shared : Arguments) : Verbosity where
  debug := shared.has .debug
  verbose := shared.has .verbose
  quiet := shared.has .quiet

/-- The whole course. The log is set up once the command is known. -/
def course (place : Workplace World) (colored : Bool) (arguments : List Text) :
    Course World Nat := do
  if arguments.isEmpty then throw (.misused .program .missingCommand)
  let shared ← readGroup place.host colored .program arguments
  let (command, rest) ← member place.host colored .program shared.operands
  let environment := place.host.environment (← get).1
  Course.ask (place.setupLog (.ofEnvironment (verbosityOf shared) environment))
  match command with
  | .config =>
    let group ← readGroup place.host colored .config rest
    let (_, rest) ← member place.host colored .config group.operands
    runCheck place colored shared rest
  | _ => runGenerate place colored shared rest

def run (place : Workplace World) (colored : Bool) (arguments : List Text) (world : World) :
    Outcome × World :=
  match course place colored arguments (world, []) with
  | .ok exitCode (after, output) => ({ exitCode, output }, after)
  | .error (.exit exitCode) (after, output) => ({ exitCode, output }, after)
  | .error (.misused command misuse) (after, output) =>
    let complaint : Print := { text := misuse.report command, endsLine := false }
    ({ exitCode := misuseCode, output, complaint := complaint.shown colored }, after)
  | .error (.crashed crash) (after, output) =>
    ({ exitCode := failureCode, output, crash? := some crash }, after)

end GenWalk.CommandLine
