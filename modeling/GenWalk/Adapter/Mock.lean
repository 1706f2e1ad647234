import GenWalk.Adapter.Basic

/-!
An adapter that runs nothing. It keeps a list of what it was asked to run, and fails where it has
been told to.
-/

namespace GenWalk

structure Mock where
  name : Text := "mock"
  output : Text := "[mock] executed"
  /-- Commands and paths that fail, each with the words of the failure, the newest first. -/
  failures : List (Text × Text) := []
  calls : List Context := []
deriving Inhabited

namespace Mock

def defaultFailure : Text := "Mock failure"

def setFailure (mock : Mock) (key error : Text) : Mock :=
  { mock with failures := (key, error) :: mock.failures }

/-- A failure set for the command comes before one set for the path. -/
def failure? (mock : Mock) (context : Context) : Option Text :=
  (mock.failures.lookup context.command).or (mock.failures.lookup context.path)

def receipt (mock : Mock) (context : Context) : Receipt :=
  match mock.failure? context with
  | some error => context.failure mock.name error
  | none => { context.success mock.name mock.output with
      metadata := [(.text "mock", .boolean true)] }

def execute (context : Context) (mock : Mock) : Receipt × Mock :=
  (mock.receipt context, { mock with calls := mock.calls ++ [context] })

def reset (mock : Mock) : Mock := { mock with failures := [], calls := [] }

def commands (mock : Mock) : List Text := mock.calls.map Context.command

def adapter {World : Type} (name : Text) (mockOf : World → Mock) (withMock : Mock → World → World) :
    Adapter World where
  name
  objection? := Context.objection?
  execute context world :=
    let (receipt, mock) := (mockOf world).execute context
    (receipt, withMock mock world)

end Mock

end GenWalk
