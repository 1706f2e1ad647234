import GenWalk.Host
import GenWalk.Text.Blank

/-!
A journey through a world: questions are asked, records are left in the log, and something is
gathered on the way. It may be cut short.
-/

namespace GenWalk

/-- What cuts a walk short. -/
inductive Interruption where
  | refused (fault : Fault)
  /-- A file ends inside the line with the directive. -/
  | unterminated (file keyword : Text)
  | generator (command path cause : Text)
deriving DecidableEq, Inhabited

namespace Interruption

def message : Interruption → Text
  | refused fault => fault.message
  | unterminated file keyword =>
    file ++ ": unexpected end of file in " ++ keyword.trim ++ " line"
  | generator command path cause =>
    "failed to execute " ++ command ++ " (" ++ path ++ "): " ++ cause

end Interruption

abbrev Journey (World Gathered α : Type) := EStateM Interruption (World × Gathered) α

namespace Journey

variable {World Gathered α : Type}

def ask (query : Query World α) : Journey World Gathered α :=
  fun state => match query state.1 with
    | .ok answer world => .ok answer (world, state.2)
    | .error fault world => .error (.refused fault) (world, state.2)

def changeWorld (change : World → World) : Journey World Gathered Unit :=
  fun state => .ok () (change state.1, state.2)

def gather (change : Gathered → Gathered) : Journey World Gathered Unit :=
  fun state => .ok () (state.1, change state.2)

def note (host : Host World) (level : Level) (source message : Text) :
    Journey World Gathered Unit :=
  changeWorld (host.note { level, source, message })

end Journey

end GenWalk
