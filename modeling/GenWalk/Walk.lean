import GenWalk.Adapter.Basic
import GenWalk.Directive.Line
import GenWalk.Json
import GenWalk.Settings
import GenWalk.Template
import GenWalk.Traversal

/-!
The walk: files are read as the traversal yields them, and the generator of each is run before the
next file is looked for. The first failure of any kind ends the walk.
-/

namespace GenWalk

structure WalkRequest where
  /-- Where to start, as it was written; generators see it in this form. -/
  root : Text
  settings : Settings := .usual
  dryRun : Bool := false
  /-- The environment to run generators in, if it is not the program's own. -/
  base : Option Environment := none

structure Books where
  directives : List Directive := []
  receipts : List Receipt := []
  /-- How many generators have not failed. -/
  count : Nat := 0
deriving Inhabited

structure WalkResult where
  root : Text
  dryRun : Bool
  books : Books
  error : Option Interruption
deriving Inhabited

namespace WalkResult

def isOk (result : WalkResult) : Bool := result.error.isNone

def count (result : WalkResult) : Nat := result.books.count

end WalkResult

namespace Walk

variable {World : Type}

def dryRunReason : Text := "[dry-run] not executed"

/-- The receipt for a context: the adapter's own if it may run the generator, and else one that says
why it was not run. -/
def receipt (adapter : Adapter World) (dryRun : Bool) (context : Context) :
    Journey World Books Receipt :=
  fun (world, books) => match adapter.objection? context with
    | some error => .ok (context.failure adapter.name error) (world, books)
    | none =>
      if dryRun then .ok (context.skipped adapter.name dryRunReason) (world, books)
      else
        let (receipt, after) := adapter.execute context world
        .ok receipt (after, books)

def contextOf (command path root : Text) (base : Environment) : Context :=
  let directive : Directive := { command, path, root }
  let visible := directive.environment base
  let expanded := Template.expand command visible
  { directive := { directive with expanded }
    environment := visible.set Directive.expandedVariable expanded }

def perform (host : Host World) (adapter : Adapter World) (request : WalkRequest)
    (context : Context) : Journey World Books Unit := do
  Journey.gather fun books => { books with directives := books.directives ++ [context.directive] }
  Journey.note host Level.debug Traversal.source
    ("File: " ++ context.path ++ ", Command: " ++ context.command)
  let receipt ← receipt adapter request.dryRun context
  Journey.gather fun books => { books with receipts := books.receipts ++ [receipt] }
  if receipt.isFailed then
    throw (.generator context.command context.path (receipt.error.getD []))
  Journey.gather fun books => { books with count := books.count + 1 }
  Journey.note host Level.info Traversal.source
    ((if request.dryRun then "⊘ " else "✓ ") ++ context.path ++ " → " ++ context.command)

def visit (host : Host World) (adapter : Adapter World) (request : WalkRequest) (path : Path) :
    Journey World Books Unit := do
  let content ← Journey.ask (host.content path)
  match (FirstLine.read request.settings.keyword content).command? with
  | none => throw (.unterminated path.toText request.settings.keyword)
  | some [] => pure ()
  | some command =>
    let (world, _) ← get
    perform host adapter request
      (contextOf command path.toText request.root (request.base.getD (host.environment world)))

/-- Walks, and answers the result; a fault that is no outcome of a walk is thrown instead. -/
def run (host : Host World) (adapter : Adapter World) (request : WalkRequest) :
    Query World WalkResult :=
  fun world =>
    let result (books : Books) (error : Option Interruption) : WalkResult :=
      { root := request.root, dryRun := request.dryRun, books, error }
    match Traversal.run host request.settings.skipPrefixes (visit host adapter request)
        (Path.ofText request.root) (world, {}) with
    | .ok _ (after, books) => .ok (result books none) after
    | .error (.refused fault) (after, books) =>
      if fault.isSystem then stopped host request (result books (some (.refused fault))) after
      else .error fault after
    | .error interruption (after, books) =>
      stopped host request (result books (some interruption)) after
where
  stopped (host : Host World) (request : WalkRequest) (result : WalkResult) :
      Query World WalkResult :=
    fun world => .ok result <| host.note {
      level := Level.debug
      source := Traversal.source
      message := "Walk of " ++ request.root ++ " stopped after " ++ Text.ofNat result.count ++
        " generators: " ++ (result.error.map Interruption.message).getD [] } world

end Walk

namespace Directive

def toJson (directive : Directive) : Json := .object [
  ("command", .text directive.command), ("path", .text directive.path),
  ("root", .text directive.root), ("expanded", .text directive.expanded)]

end Directive

namespace Receipt

def toJson (receipt : Receipt) : Json := .object [
  ("adapter", .text receipt.adapter), ("command", .text receipt.command),
  ("path", .text receipt.path), ("status", .text receipt.status.text),
  ("return_code", .ofOption .integer receipt.returnCode), ("output", .text receipt.output),
  ("error", .ofOption .text receipt.error), ("metadata", (Value.map receipt.metadata).toJson)]

end Receipt

def WalkResult.toJson (result : WalkResult) : Json := .object [
  ("root", .text result.root), ("count", .integer result.count),
  ("dry_run", .boolean result.dryRun), ("ok", .boolean result.isOk),
  ("error", .ofOption (fun error => .text error.message) result.error),
  ("directives", .list (result.books.directives.map Directive.toJson)),
  ("receipts", .list (result.books.receipts.map Receipt.toJson))]

end GenWalk
