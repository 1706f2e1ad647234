import GenWalk.Environment
import GenWalk.Validation

/-!
A directive: the command found in a file, and where it was found. It is what a generator learns of
its own run, through the four variables named here.
-/

namespace GenWalk

structure Directive where
  command : Text
  path : Text
  root : Text
  expanded : Text := []
deriving DecidableEq, Inhabited

namespace Directive

def commandVariable : Text := "HELM_GENERATE_COMMAND"
def fileVariable : Text := "HELM_GENERATE_FILE"
def directoryVariable : Text := "HELM_GENERATE_DIR"
def expandedVariable : Text := "HELM_GENERATE_COMMAND_EXPANDED"

/-- The variables that speak of the directive. The expanded command is among them only when it is
not empty. -/
def ownVariables (directive : Directive) : List (Text × Text) :=
  [(commandVariable, directive.command), (fileVariable, directive.path),
    (directoryVariable, directive.root)] ++
  if directive.expanded.isEmpty then [] else [(expandedVariable, directive.expanded)]

def environment (directive : Directive) (base : Environment) : Environment :=
  base.setAll directive.ownVariables

def ofFields (entries : List (Value × Value)) : Checked Directive :=
  (Checked.accept fun command path root expanded =>
    ({ command, path, root, expanded } : Directive))
  |>.beside (.field entries "command" none Value.checkText)
  |>.beside (.field entries "path" none Value.checkText)
  |>.beside (.field entries "root" none Value.checkText)
  |>.beside (.field entries "expanded" (some []) Value.checkText)

end Directive

end GenWalk
