import GenWalk.Directive.Basic
import GenWalk.Receipt
import GenWalk.Text.Blank

/-!
Adapters: ways of running a generator. An adapter never fails itself; what goes wrong is in the
receipt.
-/

namespace GenWalk

structure Context where
  directive : Directive
  environment : Environment := .empty
deriving DecidableEq, Inhabited

namespace Context

def command (context : Context) : Text := context.directive.expanded

def path (context : Context) : Text := context.directive.path

/-- The words of the command; quotes have no meaning. -/
def arguments (context : Context) : List Text := context.command.words

def emptyCommand : Text := "empty command"

def objection? (context : Context) : Option Text :=
  if context.arguments.isEmpty then some emptyCommand else none

def failure (context : Context) (adapter error : Text) : Receipt where
  adapter
  command := context.command
  path := context.path
  status := .failed
  error := some error

def skipped (context : Context) (adapter reason : Text) : Receipt where
  adapter
  command := context.command
  path := context.path
  status := .skipped
  output := reason

def success (context : Context) (adapter output : Text) : Receipt where
  adapter
  command := context.command
  path := context.path
  output

end Context

/-- A way of running generators in a world of the given kind. -/
structure Adapter (World : Type) where
  name : Text
  objection? : Context → Option Text
  execute : Context → World → Receipt × World

def Adapter.through {Whole Part : Type} (part : Whole → Part) (withPart : Part → Whole → Whole)
    (adapter : Adapter Part) : Adapter Whole where
  name := adapter.name
  objection? := adapter.objection?
  execute context whole :=
    let (receipt, after) := adapter.execute context (part whole)
    (receipt, withPart after whole)

end GenWalk
