import GenWalk.Proofs.Traversal.Snapshot
import GenWalk.Proofs.Walk.Watched

/-!
What a walk does with one file. There are four things that can come of it, and the first line of the
file tells which (`Walk.visit_watched`).
-/

namespace GenWalk

variable {World : Type}

/-- What comes of one file. -/
inductive Deed where
  | passed
  | unreadable (fault : Fault)
  | unterminated
  | generated (context : Context) (receipt : Receipt)

namespace Deed

def failure? (keyword : Text) (path : Path) : Deed → Option Interruption
  | passed => none
  | unreadable fault => some (.refused fault)
  | unterminated => some (.unterminated path.toText keyword)
  | generated context receipt =>
    if receipt.isFailed then
      some (.generator context.command context.path (receipt.error.getD []))
    else none

def directive? : Deed → Option Directive
  | generated context _ => some context.directive
  | _ => none

def receipt? : Deed → Option Receipt
  | generated _ receipt => some receipt
  | _ => none

def events (adapter : Adapter World) (dryRun : Bool) (path : Path) : Deed → List Event
  | generated context receipt =>
    .opened path :: if (adapter.objection? context).isSome || dryRun then [] else [.ran context receipt]
  | _ => [.opened path]

theorem eq_unreadable {keyword : Text} {path : Path} {deed : Deed} {fault : Fault}
    (failed : deed.failure? keyword path = some (.refused fault)) : deed = .unreadable fault := by
  cases deed with
  | passed => cases failed
  | unreadable other =>
    cases failed
    rfl
  | unterminated => cases failed
  | generated context receipt =>
    simp only [failure?] at failed
    split at failed
    next => cases failed
    next => cases failed

end Deed

namespace Walk

/-- Where the receipt of a generator comes from: it says why the generator is not run, or it is the
adapter's for one of the worlds. -/
def Receipted (adapter : Adapter World) (dryRun : Bool) (worlds : World → Prop) (context : Context)
    (receipt : Receipt) : Prop :=
  match adapter.objection? context with
  | some error => receipt = context.failure adapter.name error
  | none =>
    if dryRun then receipt = context.skipped adapter.name dryRunReason
    else ∃ world, worlds world ∧ receipt = (adapter.execute context world).1

/-- What a walk has to do with a file is told by the first line of its content. The environment is
that of one of the worlds, unless the request has one. -/
def Due (host : Host World) (adapter : Adapter World) (request : WalkRequest) (view : Snapshot)
    (worlds : World → Prop) (path : Path) : Deed → Prop
  | .unreadable fault => view.content path = .error fault
  | .unterminated => ∃ content, view.content path = .ok content ∧
      FirstLine.read request.settings.keyword content = .unterminated
  | .passed => ∃ content, view.content path = .ok content ∧
      (FirstLine.read request.settings.keyword content).command? = some []
  | .generated context receipt => ∃ content command world, view.content path = .ok content ∧
      (FirstLine.read request.settings.keyword content).command? = some command ∧ command ≠ [] ∧
      worlds world ∧ context = contextOf command path.toText request.root
        (request.base.getD (host.environment world)) ∧
      Receipted adapter request.dryRun worlds context receipt

variable {host : Host World} {adapter : Adapter World} {view : Snapshot} {worlds : World → Prop}

/-- What a part of a walk leaves behind: the worlds are not left, and the events and the books grow
by what the deeds say. -/
structure Grown (adapter : Adapter World) (dryRun : Bool) (worlds : World → Prop)
    (steps : List (Path × Deed)) (events : List Event) (books : Books)
    (final : (World × List Event) × Books) : Prop where
  inside : worlds final.1.1
  seen : final.1.2 = events ++ steps.flatMap fun step => step.2.events adapter dryRun step.1
  directives : final.2.directives = books.directives ++ steps.filterMap (·.2.directive?)
  receipts : final.2.receipts = books.receipts ++ steps.filterMap (·.2.receipt?)
  count : final.2.count =
    books.count + (steps.filterMap (·.2.receipt?)).countP fun receipt => !receipt.isFailed

theorem visit_refused {request : WalkRequest} {path : Path} {world after : World} {fault : Fault}
    (refused : host.content path world = .error fault after) (books : Books) :
    visit host adapter request path (world, books) = .error (.refused fault) (after, books) := by
  simp only [visit, bind, EStateM.bind, Journey.ask, refused]

theorem visit_read {request : WalkRequest} {path : Path} {world after : World} {content : Bytes}
    (read : host.content path world = .ok content after) (books : Books) :
    visit host adapter request path (world, books) =
      match (FirstLine.read request.settings.keyword content).command? with
      | none => .error (.unterminated path.toText request.settings.keyword) (after, books)
      | some [] => .ok () (after, books)
      | some command => perform host adapter request (contextOf command path.toText request.root
          (request.base.getD (host.environment after))) (after, books) := by
  simp only [visit, bind, EStateM.bind, Journey.ask, read]
  cases (FirstLine.read request.settings.keyword content).command? with
  | none => rfl
  | some command =>
    cases command with
    | nil => rfl
    | cons glyph rest => rfl

end Walk

end GenWalk
