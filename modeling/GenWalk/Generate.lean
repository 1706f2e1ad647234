import GenWalk.Config.Load
import GenWalk.Walk

/-!
Running all generators of a tree under its own configuration.
-/

namespace GenWalk

structure GenerateRequest where
  directory : Text := "."
  config : Option Path := none
  dryRun : Bool := false

structure GenerateResult where
  directory : Text
  configPath? : Option Path
  settings? : Option Settings
  outcome : Except ConfigProblem WalkResult

namespace GenerateResult

def walk? (result : GenerateResult) : Option WalkResult := result.outcome.toOption

def count (result : GenerateResult) : Nat := (result.walk?.map WalkResult.count).getD 0

def error? (result : GenerateResult) : Option Text :=
  match result.outcome with
  | .error problem => some problem.message
  | .ok walk => walk.error.map Interruption.message

def toJson (result : GenerateResult) : Json :=
  let always : List (Text × Json) := [
    ("directory", .text result.directory),
    ("config_path", .ofOption (fun path => .text path.toText) result.configPath?),
    ("count", .integer result.count)]
  let error : Option (Text × Json) :=
    (result.error?.filter (!·.isEmpty)).map fun error => ("error", .text error)
  let walk : Option (Text × Json) := result.walk?.map fun walk => ("walk", walk.toJson)
  .object (always ++ error.toList ++ walk.toList)

end GenerateResult

namespace Generate

def source : Text := "helmgen.core.use_cases.generate"

variable {World : Type}

def report (directory : Text) (walk : WalkResult) : LogRecord :=
  match walk.error with
  | some error => {
      level := Level.debug
      source
      message := "Generate failed in " ++ directory ++ ": " ++ error.message }
  | none => {
      level := Level.info
      source
      message := "Ran " ++ Text.ofNat walk.count ++ " generators under " ++ directory }

/-- Finds and loads the configuration and walks. A problem of the configuration is a result; the
walk is then not begun. -/
def run (host : Host World) (adapter : Adapter World) (request : GenerateRequest) :
    Config.Loading World GenerateResult := do
  let configPath? ← Config.Loading.ask
    (Config.choose host request.config (Path.ofText request.directory))
  let result (settings? : Option Settings) (outcome : Except ConfigProblem WalkResult) :
      GenerateResult :=
    { directory := request.directory, configPath?, settings?, outcome }
  fun world => match Config.load host configPath? world with
    | .error (.problem problem) after => .ok (result none (.error problem)) after
    | .error failure after => .error failure after
    | .ok settings after =>
      let walkRequest : WalkRequest :=
        { root := request.directory, settings, dryRun := request.dryRun }
      match Walk.run host adapter walkRequest after with
      | .error fault after => .error (.refused fault) after
      | .ok walk after =>
        .ok (result (some settings) (.ok walk)) (host.note (report request.directory walk) after)

end Generate

end GenWalk
