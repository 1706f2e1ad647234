import GenWalk.Adapter.Process
import GenWalk.Script.Run

/-!
Starting processes on a machine. What a process puts out is kept by the machine; it gets nothing to
read.
-/

namespace GenWalk.Machine

def firstProcess : Nat := 2

def leftWith (machine : Machine) (after : Script.Shell) : Machine :=
  { after.machine with
    directory := machine.directory
    spoken := machine.spoken ++ (after.buffer 1).bytes }

/-- A process keeps to its own directory, and leaves the disk and its output behind. -/
def launch : Launcher Machine := fun command environment machine =>
  match machine.invocation command environment with
  | .error fault => (.error fault, machine)
  | .ok invocation =>
    let outer : Script.Shell := { machine, nextProcess := firstProcess + 1 }
    let setting : Script.Setting := { environment, process := firstProcess }
    match Script.perform Script.depthLimit invocation setting outer with
    | .ok ending after => (.ok ending, machine.leftWith after)
    | .error _ after => (.ok (.killed 9), machine.leftWith after)

def processAdapter : Adapter Machine := ProcessAdapter.adapter Machine.note launch

end GenWalk.Machine
