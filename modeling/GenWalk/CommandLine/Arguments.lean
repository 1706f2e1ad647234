import GenWalk.CommandLine.Usage

/-!
Reading the arguments of a command: options with their values, and what is left over. Short flags
may share one dash, and two dashes end the options.
-/

namespace GenWalk.CommandLine

inductive Wish where
  | verbose
  | quiet
  | debug
  | config
  | version
  | help
  | json
  | dryRun
  | mock
deriving DecidableEq, Inhabited

structure OptionForm where
  wish : Wish
  short? : Option Char := none
  long : List String
  takesValue : Bool := false
deriving DecidableEq, Inhabited

namespace OptionForm

def help : OptionForm := { wish := .help, long := ["--help"] }

def json : OptionForm := { wish := .json, long := ["--json-output", "--json"] }

def ofCommand : Command → List OptionForm
  | .program => [
      { wish := .version, long := ["--version"] },
      { wish := .verbose, short? := some 'v', long := ["--verbose"] },
      { wish := .quiet, short? := some 'q', long := ["--quiet"] },
      { wish := .debug, long := ["--debug"] },
      { wish := .config, short? := some 'c', long := ["--config"], takesValue := true },
      help]
  | .generate => [
      json,
      { wish := .dryRun, long := ["--dry-run"] },
      { wish := .mock, long := ["--mock"] },
      help]
  | .config => [help]
  | .check => [json, help]

def ofLong? (forms : List OptionForm) (name : Text) : Option OptionForm :=
  forms.find? fun form => form.long.any (Text.ofString · = name)

def longNames (forms : List OptionForm) : List Text :=
  forms.flatMap fun form => form.long.map Text.ofString

def ofShort? (forms : List OptionForm) (letter : Glyph) : Option OptionForm :=
  forms.find? fun form => form.short?.map Glyph.char = some letter

end OptionForm

structure Arguments where
  wishes : List (Wish × Option Text) := []
  operands : List Text := []
deriving DecidableEq, Inhabited

namespace Arguments

def has (arguments : Arguments) (wish : Wish) : Bool := arguments.wishes.any (·.1 = wish)

def value? (arguments : Arguments) (wish : Wish) : Option Text :=
  (arguments.wishes.reverse.find? (·.1 = wish)).bind Prod.snd

def addWishes (wishes : List (Wish × Option Text)) (arguments : Arguments) : Arguments :=
  { arguments with wishes := wishes ++ arguments.wishes }

def addOperand (operand : Text) (arguments : Arguments) : Arguments :=
  { arguments with operands := operand :: arguments.operands }

def dash : Glyph := .char '-'

/-- What one argument says: wishes, and an option by its name whose value is the next argument. -/
structure Part where
  wishes : List (Wish × Option Text) := []
  pending? : Option (Text × Wish) := none
deriving DecidableEq, Inhabited

def cluster (forms : List OptionForm) : Text → Except Misuse Part
  | [] => .ok {}
  | letter :: rest => do
    let name := [dash, letter]
    match OptionForm.ofShort? forms letter with
    | none => throw (.noSuchOption name)
    | some form =>
      if form.takesValue then
        if rest.isEmpty then return { pending? := some (name, form.wish) }
        return { wishes := [(form.wish, some rest)] }
      let part ← cluster forms rest
      return { part with wishes := (form.wish, none) :: part.wishes }

def part (forms : List OptionForm) (argument : Text) : Except Misuse Part :=
  let (name, rest) := argument.spanUntil (· == .char '=')
  match OptionForm.ofLong? forms name, rest with
  | some form, [] =>
    if form.takesValue then .ok { pending? := some (name, form.wish) }
    else .ok { wishes := [(form.wish, none)] }
  | some form, _ :: value =>
    if form.takesValue then .ok { wishes := [(form.wish, some value)] }
    else .error (.takesNoValue name)
  | none, _ =>
    if argument.startsWith [dash, dash] then
      .error (.noSuchOption name (name.closest (OptionForm.longNames forms)))
    else cluster forms (argument.drop 1)

def isOption (argument : Text) : Bool := argument.head? = some dash && 1 < argument.length

/-- Reads the arguments. `mixed` tells whether options may come after other words. -/
def read (forms : List OptionForm) (mixed : Bool) : List Text → Except Misuse Arguments
  | [] => .ok {}
  | argument :: rest =>
    if argument = [dash, dash] then .ok { operands := rest }
    else if isOption argument then
      match part forms argument with
      | .error misuse => .error misuse
      | .ok { wishes, pending? := none } => (read forms mixed rest).map (addWishes wishes)
      | .ok { wishes, pending? := some (name, wish) } => match rest with
        | [] => .error (.needsArgument name)
        | value :: rest => (read forms mixed rest).map (addWishes (wishes ++ [(wish, some value)]))
    else if mixed then (read forms mixed rest).map (addOperand argument)
    else .ok { operands := argument :: rest }

end Arguments

end GenWalk.CommandLine
