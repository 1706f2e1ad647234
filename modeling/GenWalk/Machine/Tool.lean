import GenWalk.Machine.Program
import GenWalk.Machine.Tool.Calculation
import GenWalk.Machine.Tool.Characters
import GenWalk.Machine.Tool.Condition
import GenWalk.Machine.Tool.Edit
import GenWalk.Machine.Tool.Files
import GenWalk.Machine.Tool.Finding
import GenWalk.Machine.Tool.Mode
import GenWalk.Machine.Tool.Order
import GenWalk.Machine.Tool.Search
import GenWalk.Machine.Tool.Sequence

/-!
The small programs of the machine by their names. As with scripts, nothing is proved of them.
-/

namespace GenWalk.Machine.Tool

def environmentLines (environment : Environment) : Bytes :=
  environment.entries.flatMap fun entry => line (pairText entry)

def printEnvironment : Tool := fun call =>
  let shown (name : Text) : Option Bytes :=
    if name.contains (.char '=') then none else (call.environment.get? name).map line
  match call.arguments with
  | [] => call.answer 0 (environmentLines call.environment)
  | names => call.answer (if names.all fun name => (shown name).isSome then 0 else 1)
      (names.flatMap fun name => (shown name).getD [])

def sleep : Tool := fun call =>
  let isTime (text : Text) : Bool := match Amount.leading 64 text with
    | some (amount, rest) => !amount.isNegative &&
        (rest.isEmpty || "smhd".toList.any fun letter => rest = [Glyph.char letter])
    | none => false
  call.answer (if call.arguments.isEmpty || !call.arguments.all isTime then 1 else 0) []

def userName (machine : Machine) : Text := if machine.privileged then "root" else "nobody"

def identity : Tool := fun call =>
  let number : Text := if call.machine.privileged then "0" else "65534"
  let name := userName call.machine
  match call.arguments.head?.bind Text.toString? with
  | some "-u" | some "-g" => call.answer 0 (line number)
  | some "-un" | some "-nu" | some "-gn" | some "-ng" => call.answer 0 (line name)
  | _ =>
    let pair : Text := number ++ "(" ++ name ++ ")"
    call.answer 0 (line ("uid=" ++ pair ++ " gid=" ++ pair ++ " groups=" ++ pair))

def which : Tool := fun call =>
  let searchPath := (call.environment.get? searchPathName).getD usualSearchPath
  let place (name : Text) : Option Text := (candidates searchPath name).find? fun path =>
    match call.machine.findEntry true path with
    | .ok (_, .file mode _) => Nat.land mode 0o111 ≠ 0
    | _ => false
  let names := call.arguments.filter fun name => name.head? ≠ some (.char '-')
  call.answer (if names.isEmpty || names.any fun name => (place name).isNone then 1 else 0)
    ((names.filterMap place).flatMap line)

def constantly (code : Nat) : Tool := fun call => call.answer code []

def table : List (String × Tool) := [
  ("true", constantly 0), ("false", constantly 1), ("echo", echoProgram), ("printf", printfProgram),
  ("printenv", printEnvironment), ("cat", concatenate), ("tee", tee), ("head", head),
  ("tail", tail), ("wc", wordCount), ("tac", reversedLines), ("rev", turnedLines),
  ("nl", numberLines), ("paste", paste), ("sort", sort), ("uniq", unique),
  ("tr", replaceCharacters), ("cut", cut), ("grep", search .basic),
  ("egrep", search .extended), ("fgrep", search .fixed),
  ("sed", edit), ("expr", calculate), ("seq", sequence), ("find", find), ("cmp", compareFiles),
  ("pwd", workingDirectory), ("sleep", sleep), ("ls", list), ("basename", baseNames),
  ("dirname", directoryNames), ("readlink", readLink), ("realpath", realPathProgram),
  ("touch", touch), ("mkdir", makeDirectories), ("rmdir", removeDirectories), ("rm", remove),
  ("cp", copy), ("mv", move), ("ln", link), ("chmod", changeModes), ("sync", constantly 0),
  ("whoami", fun call => call.answer 0 (line (userName call.machine))), ("id", identity),
  ("uname", fun call => call.answer 0 (line "Linux")), ("which", which),
  ("test", fun call => call.answer (conditionCode true call.machine call.arguments) []),
  ("[", fun call => call.answer (bracketCode true call.machine call.arguments) [])]

def runners : List String := ["sh", "dash", "bash", "env", "xargs", "timeout"]

def names : List String := table.map Prod.fst ++ runners

end GenWalk.Machine.Tool
