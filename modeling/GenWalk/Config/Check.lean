import GenWalk.Config.Load
import GenWalk.Json

/-!
The check of a configuration: whether it can be used, and what its writer may not have meant.
-/

namespace GenWalk

structure ConfigCheck where
  path? : Option Path
  outcome : Except ConfigProblem Settings

namespace ConfigCheck

def isValid (check : ConfigCheck) : Bool := check.outcome.toBool

def settings? (check : ConfigCheck) : Option Settings := check.outcome.toOption

def errors (check : ConfigCheck) : List Text :=
  match check.outcome with
  | .ok _ => []
  | .error problem => [problem.message]

def repeated (texts : List Text) : List Text :=
  (texts.filter fun text => 1 < texts.count text).eraseDups

def keywordWarnings (keyword : Text) : List Text :=
  if keyword.getLast? ≠ some (.char ' ') then
    ["Keyword " ++ keyword.quoted ++
      " has no trailing space; the command will start immediately after it."]
  else if keyword ≠ defaultKeyword then
    ["Custom keyword " ++ keyword.quoted ++ "; files using " ++ defaultKeyword.trim.quoted ++
      " will be ignored."]
  else []

def prefixWarnings (prefixes : List Text) : List Text :=
  match repeated prefixes with
  | [] => []
  | duplicates => ["Duplicate skip prefixes: " ++ Text.join ", " (Text.sorted duplicates)]

def warnings (check : ConfigCheck) : List Text :=
  match check.outcome with
  | .error _ => []
  | .ok settings =>
    (if check.path?.isNone then ["No " ++ Config.fileName ++ " found. Using defaults."] else []) ++
    keywordWarnings settings.keyword ++ prefixWarnings settings.skipPrefixes

def toJson (check : ConfigCheck) : Json := .object [
  ("valid", .boolean check.isValid),
  ("config_path", .ofOption (fun path => .text path.toText) check.path?),
  ("errors", .ofTexts check.errors), ("warnings", .ofTexts check.warnings),
  ("keyword", .ofOption (fun settings => .text settings.keyword) check.settings?),
  ("skip_prefixes", .ofTexts ((check.settings?.map Settings.skipPrefixes).getD []))]

variable {World : Type}

def run (host : Host World) (named : Option Path) (directory : Path) :
    Config.Loading World ConfigCheck := do
  let path? ← Config.Loading.ask (Config.choose host named directory)
  fun world => match Config.load host path? world with
    | .ok settings after => .ok { path?, outcome := .ok settings } after
    | .error (.problem problem) after => .ok { path?, outcome := .error problem } after
    | .error failure after => .error failure after

end ConfigCheck

end GenWalk
