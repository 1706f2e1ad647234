import GenWalk.Text.Likeness
import GenWalk.Text.Quoted

/-!
How the commands are called, and what is said to someone who calls them otherwise.
-/

namespace GenWalk.CommandLine

inductive Command where
  | program
  | generate
  | config
  | check
deriving DecidableEq, Inhabited

namespace Command

def words : Command → Text
  | program => "helmgen"
  | generate => "helmgen generate"
  | config => "helmgen config"
  | check => "helmgen config check"

def isGroup : Command → Bool
  | program | config => true
  | generate | check => false

def form (command : Command) : Text :=
  if command.isGroup then "[OPTIONS] COMMAND [ARGS]..." else "[OPTIONS] [DIRECTORY]"

def usage (command : Command) : Text := "Usage: " ++ command.words ++ " " ++ command.form

def members : Command → List (Text × Command)
  | program => [("generate", generate), ("config", config)]
  | config => [("check", check)]
  | generate | check => []

end Command

inductive PathDemand where
  | file
  | directory
  | any
deriving DecidableEq, Inhabited

def PathDemand.label : PathDemand → Text
  | file => "File"
  | directory => "Directory"
  | any => "Path"

/-- A mistake in a call. -/
inductive Misuse where
  | noSuchOption (name : Text) (close : List Text := [])
  | needsArgument (name : Text)
  | takesNoValue (name : Text)
  | noSuchCommand (name : Text) (close : List Text)
  | missingCommand
  | extraArguments (arguments : List Text)
  | wrongKind (parameter : Text) (demand : PathDemand) (path : Text)
  | unreadable (parameter : Text) (demand : PathDemand) (path : Text)
deriving DecidableEq, Inhabited

namespace Misuse

def suggestion : List Text → Text
  | [] => []
  | [name] => " Did you mean " ++ name.quoted ++ "?"
  | names => " (Did you mean one of: " ++ Text.join ", " (names.map Text.quoted) ++ "?)"

def message : Misuse → Text
  | noSuchOption name close => "No such option " ++ name.quoted ++ "." ++ suggestion close
  | needsArgument name => "Option " ++ name.quoted ++ " requires an argument."
  | takesNoValue name => "Option " ++ name.quoted ++ " does not take a value."
  | noSuchCommand name close => "No such command " ++ name.quoted ++ "." ++ suggestion close
  | missingCommand => "Missing command."
  | extraArguments arguments =>
    let plural := if arguments.length = 1 then "" else "s"
    "Got unexpected extra argument" ++ plural ++ " (" ++ Text.join " " arguments ++ ")"
  | wrongKind parameter demand path =>
    let kind := if demand = .file then "is a directory." else "is a file."
    "Invalid value for " ++ parameter ++ ": " ++ demand.label ++ " " ++ path.quoted ++ " " ++ kind
  | unreadable parameter demand path =>
    "Invalid value for " ++ parameter ++ ": " ++ demand.label ++ " " ++ path.quoted ++
      " is not readable."

def standsAlone : Misuse → Bool
  | needsArgument _ | takesNoValue _ => true
  | _ => false

def report (command : Command) (misuse : Misuse) : Text :=
  let message := "Error: " ++ misuse.message ++ "\n"
  if misuse.standsAlone then message
  else command.usage ++ "\nTry '" ++ command.words ++ " --help' for help.\n\n" ++ message

end Misuse

end GenWalk.CommandLine
