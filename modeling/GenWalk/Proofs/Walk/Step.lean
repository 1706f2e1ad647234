import GenWalk.Proofs.Walk.Deed

/-!
One step of a walk in any world. Nothing is assumed of the machine or of the adapter: `perform_eq`
says what becomes of a directive, and `visit_cases` what a file can lead to.
-/

namespace GenWalk

variable {World : Type}

def Books.enter (books : Books) (directive : Directive) (receipt : Receipt) : Books where
  directives := books.directives ++ [directive]
  receipts := books.receipts ++ [receipt]
  count := if receipt.isFailed then books.count else books.count + 1

namespace Walk

def receiptIn (adapter : Adapter World) (dryRun : Bool) (context : Context) (world : World) :
    Receipt × World :=
  match adapter.objection? context with
  | some error => (context.failure adapter.name error, world)
  | none =>
    if dryRun then (context.skipped adapter.name dryRunReason, world)
    else adapter.execute context world

def foundRecord (context : Context) : LogRecord where
  level := Level.debug
  source := Traversal.source
  message := "File: " ++ context.path ++ ", Command: " ++ context.command

def doneRecord (request : WalkRequest) (context : Context) : LogRecord where
  level := Level.info
  source := Traversal.source
  message := (if request.dryRun then "⊘ " else "✓ ") ++ context.path ++ " → " ++ context.command

theorem receipt_eq {adapter : Adapter World} {dryRun : Bool} {context : Context}
    {world later : World} {made : Receipt}
    (got : receiptIn adapter dryRun context world = (made, later)) (books : Books) :
    receipt adapter dryRun context (world, books) = .ok made (later, books) := by
  simp only [receipt]
  unfold receiptIn at got
  cases objection : adapter.objection? context with
  | some error =>
    rw [objection] at got
    cases got
    rfl
  | none =>
    rw [objection] at got
    cases dryRun with
    | true =>
      cases got
      rfl
    | false =>
      exact congrArg
        (fun answer : Receipt × World => EStateM.Result.ok answer.1 (answer.2, books)) got

/-- A directive and its receipt come into the books together, and a failed receipt ends the walk. -/
theorem perform_eq {host : Host World} {adapter : Adapter World} {request : WalkRequest}
    {context : Context} {world later : World} {made : Receipt}
    (got : receiptIn adapter request.dryRun context (host.note (foundRecord context) world) =
      (made, later)) (books : Books) :
    perform host adapter request context (world, books) =
      if made.isFailed then
        .error (.generator context.command context.path (made.error.getD []))
          (later, books.enter context.directive made)
      else
        .ok () (host.note (doneRecord request context) later,
          books.enter context.directive made) := by
  have receipted := receipt_eq got
  unfold foundRecord at receipted
  simp only [perform, bind, EStateM.bind, Journey.gather, Journey.note, Journey.changeWorld,
    receipted, Books.enter]
  cases made.isFailed with
  | true => rfl
  | false => rfl

/-- What a file can lead to: it is refused, its line never ends, there is nothing to run, or its
generator is run in the environment of the moment after reading, unless the request has one. -/
theorem visit_cases (host : Host World) (adapter : Adapter World) (request : WalkRequest)
    (path : Path) (world : World) (books : Books) :
    (∃ fault after, host.content path world = .error fault after ∧
      visit host adapter request path (world, books) = .error (.refused fault) (after, books)) ∨
    ∃ content after, host.content path world = .ok content after ∧
      (visit host adapter request path (world, books) =
          .error (.unterminated path.toText request.settings.keyword) (after, books) ∨
        visit host adapter request path (world, books) = .ok () (after, books) ∨
        ∃ command, FirstLine.read request.settings.keyword content = .command command ∧
          command ≠ [] ∧
          visit host adapter request path (world, books) =
            perform host adapter request (contextOf command path.toText request.root
              (request.base.getD (host.environment after))) (after, books)) := by
  cases asked : host.content path world with
  | error fault after => exact Or.inl ⟨fault, after, rfl, visit_refused asked books⟩
  | ok content after =>
    refine Or.inr ⟨content, after, rfl, ?_⟩
    rw [visit_read asked]
    cases FirstLine.read request.settings.keyword content with
    | unterminated => exact Or.inl rfl
    | ordinary => exact Or.inr (Or.inl rfl)
    | command text =>
      cases text with
      | nil => exact Or.inr (Or.inl rfl)
      | cons glyph rest =>
        exact Or.inr (Or.inr ⟨glyph :: rest, rfl, List.cons_ne_nil _ _, rfl⟩)

end Walk

end GenWalk
