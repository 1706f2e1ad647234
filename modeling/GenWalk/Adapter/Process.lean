import GenWalk.Adapter.Basic
import GenWalk.Ending
import GenWalk.Fault
import GenWalk.Log.Journal

/-!
The adapter that runs a generator as a process of its own. The receipt tells whether a process was
started and how it ended; what the process puts out goes past it.
-/

namespace GenWalk

/-- Starts a program with its arguments, the first of which names it, in an environment, and waits
for its end. -/
abbrev Launcher (World : Type) :=
  (arguments : List Text) → Environment → World → Except Fault Ending × World

namespace ProcessAdapter

def name : Text := "shell"

def source : Text := "helmgen.adapters.shell.command"

def receipt (context : Context) : Except Fault Ending → Receipt
  | .error fault => { context.failure name fault.message with
      metadata := [(.text "program", .text (context.arguments.headD []))] }
  | .ok (.exited 0) => { context.success name [] with returnCode := some 0 }
  | .ok ending => { context.failure name ending.describe with
      returnCode := some ending.returnCode }

def execute {World : Type} (note : LogRecord → World → World) (launch : Launcher World)
    (context : Context) (world : World) : Receipt × World :=
  match context.objection? with
  | some error => (context.failure name error, world)
  | none =>
    let noted := note {
      level := Level.debug
      source
      message := "Executing: " ++ Text.quotedList context.arguments } world
    let (outcome, after) := launch context.arguments context.environment noted
    (receipt context outcome, after)

def adapter {World : Type} (note : LogRecord → World → World) (launch : Launcher World) :
    Adapter World where
  name
  objection? := Context.objection?
  execute := execute note launch

end ProcessAdapter

end GenWalk
