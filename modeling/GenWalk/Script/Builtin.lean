import GenWalk.Script.Builtin.Course

/-!
The commands that a script carries out itself, as far as they run no other commands, by their names.
-/

namespace GenWalk.Script.Builtin

open Machine

def answer (code : Nat) (output : Bytes) : Run Unit := do
  let shell ← get
  if shell.isOpen 1 || output.isEmpty then set { shell.put 1 output with status := code }
  else set { shell with status := 1 }

def echo (arguments : List Text) : Run Unit := do
  if (← get).isLiteral then
    let outcome := Tool.echoProgram { arguments, machine := (← get).machine }
    answer 0 outcome.output
  else
    let endsLine := arguments.head? ≠ some (Text.ofString "-n")
    answer 0 (Tool.echo (some .scriptText) endsLine (if endsLine then arguments
      else arguments.drop 1))

def printf (arguments : List Text) : Run Unit := do
  let operands := if arguments.head? = some (Text.ofString "--") then arguments.drop 1
    else arguments
  let isOption := operands.length = arguments.length && match operands.head? with
    | some (.char '-' :: _ :: _) => true
    | _ => false
  if isOption || operands.isEmpty then failWith "usage"
  let (code, output) := Tool.printf .script operands
  answer code output

def test (words : List Text) : Run Unit := do
  match Tool.Condition.value? false (← get).machine words with
  | .ok holds => setStatus (if holds then 0 else 1)
  | .error problem => failWith problem.message

def bracket (words : List Text) : Run Unit :=
  if words.getLast? = some (Text.ofString "]") then test words.dropLast else failWith "missing ]"

def isSpecial (name : Text) : Bool :=
  [":", "exit", "export", "set", "shift", "unset", "eval", "exec", ".", "break", "continue",
    "readonly", "return", "times", "trap"].any (Text.ofString · = name)

def takesAssignments (name : Text) : Bool :=
  ["export", "readonly", "local"].any (Text.ofString · = name)

def table : List (String × (List Text → Run Unit)) := [
  (":", fun _ => setStatus 0), ("true", fun _ => setStatus 0), ("false", fun _ => setStatus 1),
  ("exit", exit), ("return", returnWith), ("break", loopControl .leave),
  ("continue", loopControl .again), ("cd", changeDirectory), ("pwd", showDirectory),
  ("export", exportAll), ("readonly", fixAll), ("unset", unsetAll), ("local", keepAll),
  ("shift", shift), ("set", settings), ("read", read), ("getopts", nextOption), ("kill", kill),
  ("trap", trap), ("wait", wait), ("umask", mask), ("echo", echo), ("printf", printf),
  ("hash", fun _ => setStatus 0), ("alias", fun _ => setStatus 0),
  ("unalias", fun _ => setStatus 0), ("jobs", fun _ => setStatus 0),
  ("ulimit", fun _ => answer 0 (Tool.line "unlimited")),
  ("times", fun _ => answer 0 (Tool.line "0m0.00s 0m0.00s" ++ Tool.line "0m0.00s 0m0.00s")),
  ("test", test), ("[", bracket)]

def inName (name : Text) (act : Run Unit) : Run Unit := fun shell =>
  match act { shell with command? := some name } with
  | .ok () after => .ok () { after with command? := shell.command? }
  | .error stop after => .error stop { after with command? := shell.command? }

def find? (name : Text) : Option (List Text → Run Unit) :=
  (name.toString?.bind fun known => table.lookup known).map fun act arguments =>
    inName name (act arguments)

def runners : List String := ["eval", ".", "exec", "command", "type"]

def isBuiltin (name : Text) : Bool :=
  (find? name).isSome || runners.any (Text.ofString · = name)

def keywords : List String := [
  "!", "case", "do", "done", "elif", "else", "esac", "fi", "for", "if", "in", "then", "until",
  "while", "\x7b", "\x7d"]

inductive Meaning where
  | keyword
  | function
  | builtin
  | program (path : Text)
  | unknown
deriving DecidableEq

def programPath? (shell : Shell) (name : Text) : Option Text :=
  (candidates (shell.values.get? searchPathName |>.getD usualSearchPath) name).find? fun path =>
    match shell.machine.findEntry true path with
    | .ok (_, .file mode _) => Nat.land mode 0o111 ≠ 0
    | _ => false

def meaning (shell : Shell) (name : Text) : Meaning :=
  if keywords.any (Text.ofString · = name) then .keyword
  else if shell.functions.any (·.1 = name) then .function
  else if isBuiltin name then .builtin
  else match programPath? shell name with
    | some path => .program path
    | none => .unknown

def describe (inShort : Bool) (names : List Text) : Run Unit := do
  setStatus 0
  for name in names do
    let shell ← get
    let sentence (text : Text) : Text := if inShort then name else name ++ text
    match meaning shell name with
    | .keyword => modify (Shell.put 1 (Tool.line (sentence " is a shell keyword")))
    | .function => modify (Shell.put 1 (Tool.line (sentence " is a shell function")))
    | .builtin =>
      let kind : Text := if isSpecial name then " is a special shell builtin"
        else " is a shell builtin"
      modify (Shell.put 1 (Tool.line (sentence kind)))
    | .program path =>
      let kind : Text := if name.contains slash then " is " else " is a tracked alias for "
      modify (Shell.put 1 (Tool.line (if inShort then path else name ++ kind ++ path)))
    | .unknown =>
      unless inShort do modify (Shell.put 1 (Tool.line (name ++ ": not found")))
      setStatus 127

end GenWalk.Script.Builtin
