import GenWalk.Fault
import GenWalk.Log.Level
import GenWalk.Path

/-!
The journal: where log records go. A setup puts one console in place of all that was there, and a
file beside it if one is named. `deliveries` is the whole of what a record brings about.
-/

namespace GenWalk

structure LogRecord where
  level : Level
  source : Text
  message : Text
deriving DecidableEq, Inhabited

def LogRecord.sourceName (record : LogRecord) : Text :=
  if record.source.isEmpty then "root" else record.source

inductive Layout where
  | detailed
  | plain
  | labelled
  | dated
deriving DecidableEq, Inhabited

namespace Layout

/-- The layout of a console that shows records from the given level on: the more is shown, the more
is said of each record. -/
def ofConsoleLevel (level : Level) : Layout :=
  if level < Level.info then detailed else if level < Level.warning then plain else labelled

/-- Records do not know the line of the program they come from; this stands in its place. -/
def unknownLine : Text := "N"

def padded (width : Nat) (text : Text) : Text :=
  text ++ List.replicate (width - text.length) (.char ' ')

def line (clock : Text) (record : LogRecord) : Layout → Text
  | detailed => "helmgen: " ++ record.level.label ++ " " ++ record.sourceName ++ ":" ++
      unknownLine ++ " " ++ record.message
  | plain => "helmgen: " ++ record.message
  | labelled => "helmgen: " ++ record.level.label ++ ": " ++ record.message
  | dated => clock ++ " " ++ padded 7 record.level.label ++ " " ++ record.sourceName ++ ": " ++
      record.message

end Layout

inductive Destination where
  | console
  | file (path : Path)
deriving DecidableEq, Inhabited

structure Sink where
  destination : Destination
  level : Level
  layout : Layout
deriving DecidableEq, Inhabited

structure Journal where
  sinks : List Sink := []
  threshold : Level := Level.warning
deriving DecidableEq, Inhabited

structure LogRequest where
  level : Option Text := some "WARNING"
  file : Option Text := none
  fileLevel : Option Text := none
deriving DecidableEq, Inhabited

namespace LogRequest

def fileVariable : Text := "HELMGEN_LOG_FILE"
def fileLevelVariable : Text := "HELMGEN_LOG_FILE_LEVEL"

def ofEnvironment (wishes : Verbosity) (environment : Environment) : LogRequest where
  level := some (wishes.levelName environment)
  file := environment.get? fileVariable
  fileLevel := environment.get? fileLevelVariable

def consoleLevel (request : LogRequest) : Level := Level.ofName request.level

def file? (request : LogRequest) : Option Text := request.file.filter (!·.isEmpty)

def levelOfFile (request : LogRequest) : Level :=
  match request.fileLevel.filter (!·.isEmpty) with
  | some name => Level.ofName (some name)
  | none => request.consoleLevel

def console (request : LogRequest) : Sink where
  destination := .console
  level := request.consoleLevel
  layout := .ofConsoleLevel request.consoleLevel

end LogRequest

namespace Journal

/-- Puts the console in place, opens the file, if one is wanted, and lowers the threshold as far as
the sinks need it. If the file cannot be opened, the console stays and the threshold is not moved.
-/
def setup (journal : Journal) (request : LogRequest) (openFile : Text → Except Fault Path) :
    Except Fault Unit × Journal :=
  match request.file? with
  | none => (.ok (), { sinks := [request.console], threshold := request.consoleLevel })
  | some name => match openFile name with
    | .error fault => (.error fault, { journal with sinks := [request.console] })
    | .ok path => (.ok (), {
        sinks := [request.console, { destination := .file path, level := request.levelOfFile,
                                     layout := .dated }]
        threshold := min request.consoleLevel request.levelOfFile })

/-- The lines that a record makes, and where each goes. Without any sink the console still gets
warnings, bare. -/
def deliveries (journal : Journal) (clock : Text) (record : LogRecord) :
    List (Destination × Text) :=
  if record.level ≤ Level.unset || record.level < journal.threshold then []
  else if journal.sinks.isEmpty then
    if record.level < Level.warning then [] else [(.console, record.message)]
  else (journal.sinks.filter fun sink => sink.level ≤ record.level).map fun sink =>
    (sink.destination, sink.layout.line clock record)

end Journal

end GenWalk
