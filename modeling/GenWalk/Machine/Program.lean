import GenWalk.Environment
import GenWalk.Machine.Basic
import GenWalk.Text.Blank

/-!
Finding the program that a command names: the file, the search for it, and the interpreter that a
file may ask for in its first line.
-/

namespace GenWalk.Machine

structure Invocation where
  program : String
  arguments : List Text
deriving DecidableEq, Inhabited

def interpreterLimit : Nat := 5

def interpreterLineLimit : Nat := 255

def interpreter? (bytes : Bytes) : Option (Text × List Text) :=
  match bytes with
  | 0x23 :: 0x21 :: rest =>
    let blank (glyph : Glyph) : Bool := glyph == .char ' ' || glyph == .char '\t'
    let line := (Utf8.decode ((rest.take interpreterLineLimit).takeWhile (· ≠ 0x0A))).trimBy blank
    let (path, argument) := line.spanUntil blank
    let argument := argument.trimBy blank
    if path.isEmpty then none else some (path, if argument.isEmpty then [] else [argument])
  | _ => none

/-- What is run for a path. A file may be run if anyone may run it; one without program in it must
name an interpreter, which then gets the path as an argument. -/
def invocationAt (machine : Machine) : (interpreters : Nat) → (path : Text) →
    (arguments : List Text) → Except SystemError Invocation
  | interpreters, path, arguments =>
    match machine.findEntry true path with
    | .error (.system error _) => .error error
    | .error _ => .error .invalidArgument
    | .ok (_, .file mode content) =>
      if mode % 2 = 0 && mode / 8 % 2 = 0 && mode / 64 % 2 = 0 then .error .accessDenied
      else if !machine.privileged && mode % 2 = 0 then .error .accessDenied
      else match content with
        | .program name => .ok { program := name, arguments }
        | .bytes bytes => match interpreter? bytes with
          | none => .error .execFormat
          | some (interpreter, argument) => match interpreters with
            | 0 => .error .linkLoop
            | interpreters + 1 =>
              machine.invocationAt interpreters interpreter (argument ++ path :: arguments)
    | .ok _ => .error .accessDenied

def usualSearchPath : Text := "/bin:/usr/bin"

def searchPathName : Text := "PATH"

def candidates (searchPath : Text) (name : Text) : List Text :=
  if name.contains slash then [name]
  else (Text.splitOn (.char ':') searchPath).map fun directory =>
    if directory.isEmpty then name
    else if directory.getLast? = some slash then directory ++ name
    else directory ++ slash :: name

/-- An error that is met on the search: the first one that says more than that nothing is there
counts, or else the last. -/
def worseError : Option SystemError → SystemError → SystemError
  | some known, new => if known = .notFound || known = .notDirectory then new else known
  | none, new => new

def firstInvocation (machine : Machine) (arguments : List Text) :
    (met : Option SystemError) → List Text → Except SystemError Invocation
  | met, [] => .error (met.getD .notFound)
  | met, candidate :: others => match machine.invocationAt interpreterLimit candidate arguments with
    | .ok invocation => .ok invocation
    | .error error => machine.firstInvocation arguments (worseError met error) others

def wordLimit : Nat := 131072

def tooLong (text : Text) : Bool := wordLimit ≤ (Utf8.encode text).length

def pairText (entry : Text × Text) : Text := entry.1 ++ .char '=' :: entry.2

def variableFault? (entry : Text × Text) : Option Fault :=
  (Fault.ofHalves? entry.1).or
    (if entry.1.contains (.char '=') then some .illegalVariable else Fault.ofHalves? entry.2)

/-- Why a command cannot be handed to any program, if it cannot: variables are written before the
name of the program, its arguments come last, and what ends a text too early is told at the end. -/
def handoverFault? (command : List Text) (environment : Environment) (paths : List Text) :
    Option Fault :=
  let nullAmong (texts : List Text) : Option Fault :=
    if texts.any (·.contains (.char '\x00')) then some .nullInName else none
  (environment.entries.findSome? variableFault?).or <|
    (Fault.ofHalves? (command.headD [])).or <|
    (nullAmong paths).or <|
    (command.findSome? Fault.ofName?).or (nullAmong (environment.entries.map pairText))

def invocation (machine : Machine) (command : List Text) (environment : Environment) :
    Except Fault Invocation :=
  let name := command.headD []
  let paths := candidates ((environment.get? searchPathName).getD usualSearchPath) name
  match handoverFault? command environment paths with
  | some fault => .error fault
  | none => match machine.firstInvocation (command.drop 1) none paths with
    | .error error => .error (.system error (some name))
    | .ok invocation =>
      if (command ++ environment.entries.map pairText).any tooLong then
        .error (.system .argumentsTooLong (some name))
      else .ok invocation

end GenWalk.Machine
