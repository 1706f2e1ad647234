import GenWalk.CommandLine.Print
import GenWalk.Config.Check
import GenWalk.Generate

/-!
The reports of the two commands: what they put out for a result, and the code they end with.
-/

namespace GenWalk.CommandLine

def line (text : Text) : Print := { text }

def emptyLine : Print := line []

def failureCode : Nat := 1

structure RunView where
  json : Bool := false
  dryRun : Bool := false
  mock : Bool := false
  verbose : Bool := false
  quiet : Bool := false
deriving DecidableEq, Inhabited

namespace RunView

def mode (view : RunView) : Text :=
  if view.dryRun then "[dry-run] " else if view.mock then "[mock] " else ""

/-- How long a generator took is not shown behind it, since no time is taken. -/
def receiptPrints (view : RunView) (receipt : Receipt) : List Print :=
  let outcome : List Print := match receipt.status with
    | .ok => [
        { text := "   ✓ " ++ receipt.path, color? := some .green, endsLine := false }, emptyLine]
    | .failed => [{ text := "   ✗ " ++ receipt.path, color? := some .red }]
    | .skipped => [
        { text := "   ⊘ " ++ receipt.path ++ " ", color? := some .yellow, endsLine := false },
        line ("(" ++ receipt.output ++ ")")]
  let command := if view.verbose || view.dryRun then [line ("     │ " ++ receipt.command)] else []
  outcome ++ command

def walkPrints (view : RunView) (directory : Text) (walk : WalkResult) : List Print :=
  let head : Text := "\n⚡ " ++ view.mode ++ "generate — " ++ directory
  { text := head, color? := some .cyan, bold := true } ::
    walk.books.receipts.flatMap view.receiptPrints

def countPrint (view : RunView) (count : Nat) : Print :=
  let noun := if view.dryRun then "directive" else "generator"
  let plural := if count = 1 then "" else "s"
  let verb := if view.dryRun then "found" else "ran"
  { text := "   " ++ Text.ofNat count ++ " " ++ noun ++ plural ++ " " ++ verb, bold := true }

def failed (result : GenerateResult) : Bool := result.error?.any (!·.isEmpty)

/-- The code is zero exactly if the result has no error. -/
def exitCode (result : GenerateResult) : Nat := if failed result then failureCode else 0

def prints (view : RunView) (result : GenerateResult) : List Print :=
  if view.json then [line result.toJson.render]
  else
    let walk := if view.quiet then [] else
      (result.walk?.map (view.walkPrints result.directory)).getD []
    let ending : List Print := if failed result then
        [{ text := "❌ " ++ result.error?.getD [], color? := some .red }]
      else
        (if view.quiet then [] else [emptyLine]) ++ [view.countPrint result.count]
    walk ++ ending

end RunView

namespace CheckView

def exitCode (check : ConfigCheck) : Nat := if check.isValid then 0 else failureCode

def bullet (text : Text) : Print := line ("   • " ++ text)

def orElse (fallback text : Text) : Text := if text.isEmpty then fallback else text

def outcomePrints (check : ConfigCheck) : List Print :=
  match check.outcome with
  | .ok settings => [
      { text := "✅ Configuration is valid", color? := some .green, bold := true },
      line ("   Config: " ++ (check.path?.map Path.toText).getD "(defaults)"),
      line ("   Keyword: " ++ settings.keyword.quoted),
      line ("   Skip prefixes: " ++ orElse "(none)" (Text.join ", " settings.skipPrefixes))]
  | .error _ =>
    ({ text := "❌ Configuration errors:", color? := some .red, bold := true } : Print) ::
      check.errors.map bullet

def warningPrints (check : ConfigCheck) : List Print :=
  if check.warnings.isEmpty then []
  else emptyLine :: ({ text := "⚠️  Warnings:", color? := some .yellow } : Print) ::
    check.warnings.map bullet

def prints (json : Bool) (check : ConfigCheck) : List Print :=
  if json then [line check.toJson.render]
  else outcomePrints check ++ warningPrints check ++ [emptyLine]

end CheckView

end GenWalk.CommandLine
