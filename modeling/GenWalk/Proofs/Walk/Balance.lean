import GenWalk.Adapter.Mock
import GenWalk.Adapter.Process
import GenWalk.Proofs.Traversal.Keeping
import GenWalk.Proofs.Walk.Staged
import GenWalk.Proofs.Walk.Step
import Mathlib.Data.List.Infix

/-!
The books of a walk balance, whatever the generators do to the tree meanwhile: `Walk.run_balanced`
says that a walk has a result, and that its directives, receipts, count and error tell the same
story.
-/

namespace GenWalk

variable {World : Type}

/-- The receipts of the adapter are about the contexts it is given, and say that their generators
have done their work or failed. -/
structure Adapter.Answering (adapter : Adapter World) : Prop where
  command : ∀ context world, (adapter.execute context world).1.command = context.command
  path : ∀ context world, (adapter.execute context world).1.path = context.path
  status : ∀ context world, (adapter.execute context world).1.status ≠ .skipped

theorem Mock.answering (name : Text) (mockOf : World → Mock) (withMock : Mock → World → World) :
    (Mock.adapter name mockOf withMock).Answering := by
  have answers (mock : Mock) (context : Context) :
      (mock.receipt context).command = context.command ∧
        (mock.receipt context).path = context.path ∧ (mock.receipt context).status ≠ .skipped := by
    unfold Mock.receipt
    split
    next => exact ⟨rfl, rfl, nofun⟩
    next => exact ⟨rfl, rfl, nofun⟩
  exact ⟨fun context world => (answers (mockOf world) context).1,
    fun context world => (answers (mockOf world) context).2.1,
    fun context world => (answers (mockOf world) context).2.2⟩

theorem ProcessAdapter.answering (note : LogRecord → World → World) (launch : Launcher World) :
    (ProcessAdapter.adapter note launch).Answering := by
  have answers (context : Context) (world : World) :
      let made := (ProcessAdapter.execute note launch context world).1
      made.command = context.command ∧ made.path = context.path ∧ made.status ≠ .skipped := by
    unfold ProcessAdapter.execute
    split
    next => exact ⟨rfl, rfl, nofun⟩
    next =>
      simp only
      unfold ProcessAdapter.receipt
      split
      next => exact ⟨rfl, rfl, nofun⟩
      next => exact ⟨rfl, rfl, nofun⟩
      next => exact ⟨rfl, rfl, nofun⟩
  exact ⟨fun context world => (answers context world).1,
    fun context world => (answers context world).2.1,
    fun context world => (answers context world).2.2⟩

def Receipt.Settles (directive : Directive) (receipt : Receipt) : Prop :=
  receipt.path = directive.path ∧ receipt.command = directive.expanded

namespace Walk

def unfailedStatus (dryRun : Bool) : Status := if dryRun then .skipped else .ok

/-- The directives, receipts, count and error of a walk tell the same story. -/
structure Balanced (dryRun : Bool) (books : Books) (error : Option Interruption) : Prop where
  settled : List.Forall₂ Receipt.Settles books.directives books.receipts
  fine : ∀ receipt ∈ books.receipts.dropLast, receipt.isFailed = false
  failed : (∃ last, books.receipts.getLast? = some last ∧ last.isFailed) ↔
    ∃ command path cause, error = some (.generator command path cause)
  told : ∀ command path cause, error = some (.generator command path cause) →
    ∀ last, books.receipts.getLast? = some last →
      command = last.command ∧ path = last.path ∧ cause = last.error.getD []
  counted : books.count = books.receipts.countP fun receipt => !receipt.isFailed
  status : ∀ receipt ∈ books.receipts, receipt.isFailed = false →
    receipt.status = unfailedStatus dryRun
  whole : (∀ command path cause, error ≠ some (.generator command path cause)) →
    books.count = books.directives.length

structure Clear (dryRun : Bool) (books : Books) : Prop where
  settled : List.Forall₂ Receipt.Settles books.directives books.receipts
  status : ∀ receipt ∈ books.receipts, receipt.status = unfailedStatus dryRun
  counted : books.count = books.receipts.length

theorem isFailed_of_status {dryRun : Bool} {receipt : Receipt}
    (status : receipt.status = unfailedStatus dryRun) : receipt.isFailed = false := by
  rw [Receipt.isFailed, status]
  cases dryRun <;> rfl

variable {dryRun : Bool} {books : Books}

theorem clear_nothing (dryRun : Bool) : Clear dryRun {} where
  settled := .nil
  status _ member := absurd member List.not_mem_nil
  counted := rfl

theorem Clear.isFailed (clear : Clear dryRun books) {receipt : Receipt}
    (member : receipt ∈ books.receipts) : receipt.isFailed = false :=
  isFailed_of_status (clear.status receipt member)

theorem Clear.countP (clear : Clear dryRun books) :
    books.receipts.countP (fun receipt => !receipt.isFailed) = books.count := by
  rw [clear.counted, List.countP_eq_length]
  intro receipt member
  rw [clear.isFailed member]
  rfl

theorem Clear.balanced (clear : Clear dryRun books) {error : Option Interruption}
    (other : ∀ command path cause, error ≠ some (.generator command path cause)) :
    Balanced dryRun books error where
  settled := clear.settled
  fine receipt member := clear.isFailed (List.mem_of_mem_dropLast member)
  failed := by
    constructor
    · rintro ⟨last, same, failed⟩
      rw [clear.isFailed (List.mem_of_getLast? same)] at failed
      cases failed
    · rintro ⟨command, path, cause, ended⟩
      exact absurd ended (other command path cause)
  told command path cause ended := absurd ended (other command path cause)
  counted := clear.countP.symm
  status receipt member _ := clear.status receipt member
  whole _ := clear.counted.trans clear.settled.length_eq.symm

variable {directive : Directive} {made : Receipt}

theorem Clear.enter (clear : Clear dryRun books) (settles : made.Settles directive)
    (status : made.status = unfailedStatus dryRun) : Clear dryRun (books.enter directive made) where
  settled := List.rel_append clear.settled (.cons settles .nil)
  status receipt member := by
    rcases List.mem_append.1 member with before | same
    · exact clear.status receipt before
    · rw [List.mem_singleton.1 same, status]
  counted := by
    simp [Books.enter, isFailed_of_status status, clear.counted]

theorem Clear.balanced_enter (clear : Clear dryRun books) (settles : made.Settles directive)
    (failed : made.isFailed = true) :
    Balanced dryRun (books.enter directive made)
      (some (.generator made.command made.path (made.error.getD []))) where
  settled := List.rel_append clear.settled (.cons settles .nil)
  fine receipt member := by
    rw [Books.enter, List.dropLast_concat] at member
    exact clear.isFailed member
  failed := ⟨fun _ => ⟨_, _, _, rfl⟩, fun _ => ⟨made, List.getLast?_concat, failed⟩⟩
  told command path cause ended last same := by
    obtain rfl : made = last := Option.some.inj (List.getLast?_concat.symm.trans same)
    cases ended
    exact ⟨rfl, rfl, rfl⟩
  counted := by
    simp [Books.enter, failed, clear.countP]
  status receipt member unfailed := by
    rcases List.mem_append.1 member with before | same
    · exact clear.status receipt before
    · rw [List.mem_singleton.1 same, failed] at unfailed
      cases unfailed
  whole other := absurd rfl (other _ _ _)

theorem receiptIn_settles {adapter : Adapter World} (answering : adapter.Answering) {dryRun : Bool}
    {context : Context} {world later : World} {made : Receipt}
    (got : receiptIn adapter dryRun context world = (made, later)) :
    made.Settles context.directive ∧
      (made.isFailed = true ∨ made.status = unfailedStatus dryRun) := by
  unfold receiptIn at got
  split at got
  next =>
    cases got
    exact ⟨⟨rfl, rfl⟩, Or.inl rfl⟩
  next =>
    cases dryRun with
    | true =>
      cases got
      exact ⟨⟨rfl, rfl⟩, Or.inr rfl⟩
    | false =>
      have same : (adapter.execute context world).1 = made := congrArg Prod.fst got
      have path := answering.path context world
      have command := answering.command context world
      have status := answering.status context world
      rw [same] at path command status
      refine ⟨⟨path, command⟩, ?_⟩
      cases ended : made.status with
      | ok => exact Or.inr rfl
      | skipped => exact absurd ended status
      | failed => exact Or.inl (by rw [Receipt.isFailed, ended]; rfl)

/-- How a walk may be cut short: its books balance, and only the system refuses anything. -/
def Ended (dryRun : Bool) (interruption : Interruption) (state : World × Books) : Prop :=
  Balanced dryRun state.2 (some interruption) ∧
    ∀ fault, interruption = .refused fault → fault.isSystem

variable {host : Host World} {adapter : Adapter World}

theorem perform_keeps (answering : adapter.Answering) (request : WalkRequest) (context : Context) :
    Journey.Keeps (fun state : World × Books => Clear request.dryRun state.2)
      (Ended request.dryRun) (perform host adapter request context) := by
  rintro ⟨world, books⟩ clear
  rcases got : receiptIn adapter request.dryRun context (host.note (foundRecord context) world) with
    ⟨made, later⟩
  obtain ⟨settles, status⟩ := receiptIn_settles answering got
  rw [perform_eq got]
  -- Failed receipts never come into books that are still clear: they end the walk.
  cases failed : made.isFailed with
  | true =>
    have balanced := clear.balanced_enter settles failed
    rw [settles.1, settles.2] at balanced
    exact ⟨balanced, nofun⟩
  | false =>
    rw [failed] at status
    exact clear.enter settles (status.resolve_left nofun)

theorem visit_keeps (nameable : host.Nameable) (answering : adapter.Answering)
    (request : WalkRequest) {path : Path} (carried : path.Holds Text.Carried) :
    Journey.Keeps (fun state : World × Books => Clear request.dryRun state.2)
      (Ended request.dryRun) (visit host adapter request path) := by
  rintro ⟨world, books⟩ clear
  rcases visit_cases host adapter request path world books with
    ⟨fault, after, refused, visited⟩ | ⟨content, after, _, visited⟩
  · rw [visited]
    refine ⟨clear.balanced nofun, fun other same => ?_⟩
    cases same
    exact nameable.content carried refused
  · rcases visited with visited | visited | ⟨command, _, _, visited⟩
    · rw [visited]
      exact ⟨clear.balanced nofun, nofun⟩
    · rw [visited]
      exact clear
    · rw [visited]
      exact perform_keeps answering request _ (after, books) clear

theorem keeps_of_nameable (nameable : host.Nameable) (dryRun : Bool) :
    host.Keeps Text.Carried (fun state : World × Books => Clear dryRun state.2) (Ended dryRun) where
  answer question carried state clear := by
    cases asked : host.answer question state.1 with
    | ok answer after => exact ⟨nameable.tells asked, clear⟩
    | error fault after =>
      refine ⟨clear.balanced nofun, fun other same => ?_⟩
      cases same
      exact nameable.answer carried asked
  note record state clear := clear
  gaveUp fault state system clear := by
    refine ⟨clear.balanced nofun, fun other same => ?_⟩
    cases same
    exact system

/-- A walk comes to a result in which the books balance, whatever its generators do to the tree. There
has to be room for the calls of the traversal, see `Traversal.depthLimit`. -/
theorem run_balanced (nameable : host.Nameable) (answering : adapter.Answering)
    (request : WalkRequest) (carried : request.root.Carried) (world : World) :
    ∃ result after, run host adapter request world = .ok result after ∧
      result.root = request.root ∧ result.dryRun = request.dryRun ∧
      Balanced request.dryRun result.books result.error := by
  have kept := Traversal.run_keeps (keeps_of_nameable nameable request.dryRun)
    (fun path => visit_keeps nameable answering request) request.settings.skipPrefixes
    (Path.holds_ofText carried) (world, {}) (clear_nothing request.dryRun)
  cases traversed : Traversal.run host request.settings.skipPrefixes (visit host adapter request)
      (Path.ofText request.root) (world, {}) with
  | ok value state =>
    rw [traversed] at kept
    obtain ⟨after, _, ran⟩ := run_of_traversal traversed nofun
    exact ⟨_, after, ran, rfl, rfl, kept.balanced nofun⟩
  | error interruption state =>
    rw [traversed] at kept
    obtain ⟨after, _, ran⟩ := run_of_traversal traversed fun fault same =>
      kept.2 fault (Option.some.inj same)
    exact ⟨_, after, ran, rfl, rfl, kept.1⟩

def clearing : Path := { parts := ["r"] }

def clearingFiles (mock : Mock) : List (Path × Text) :=
  [(clearing.child "a", "#go x\n"),
    (clearing.child "b", if mock.calls.isEmpty then "#go y\n" else "#go y")]

def clearingView (mock : Mock) : Snapshot :=
  let missing (path : Path) : Fault := .system .notFound (some path.toText)
  { kind := fun path =>
      if path = clearing then .ok .directory
      else if ((clearingFiles mock).lookup path).isSome then .ok .file
      else .error (missing path)
    target := fun path => .error (missing path)
    names := fun directory =>
      if directory = clearing then .ok ["b", "a"] else .error (missing directory)
    content := fun path => match (clearingFiles mock).lookup path with
      | some text => .ok (Utf8.encode text)
      | none => .error (missing path) }

def clearingHost : Host Mock := Host.ofSnapshots clearingView

theorem clearing_nameable : clearingHost.Nameable := by
  intro mock
  rw [clearingHost, Host.snapshot_ofSnapshots]
  refine ⟨fun directory names listing => ?_, fun path fault _ refused => ?_,
    fun path fault _ refused => ?_, fun path fault _ refused => ?_, fun path fault _ refused => ?_⟩
  · simp only [clearingView] at listing
    split at listing
    next =>
      cases listing
      decide
    next => cases listing
  · simp only [clearingView] at refused
    grind [Fault.isSystem]
  · cases refused
    rfl
  · simp only [clearingView] at refused
    grind [Fault.isSystem]
  · simp only [clearingView] at refused
    grind [Fault.isSystem]

theorem clearing_balanced :
    let request : WalkRequest := { root := "r", settings := { keyword := "go " } }
    clearingHost.Nameable ∧ orchardAdapter.Answering ∧ request.root.Carried ∧
      ∃ result after, run clearingHost orchardAdapter request {} = .ok result after ∧
        Balanced false result.books result.error ∧ result.books.count = 1 ∧
        result.error = some (.unterminated "r/b" "go ") := by
  intro request
  have answering : orchardAdapter.Answering := Mock.answering "mock" id fun mock _ => mock
  have carried : request.root.Carried := by decide
  obtain ⟨result, after, ran, _, _, balanced⟩ :=
    run_balanced clearing_nameable answering request carried {}
  have evaluated : (match run clearingHost orchardAdapter request {} with
      | .ok result _ => (result.books.count, result.error)
      | .error _ _ => (0, none)) = (1, some (.unterminated "r/b" "go ")) := by
    cbv
  rw [ran] at evaluated
  obtain ⟨count, error⟩ := Prod.mk.inj evaluated
  exact ⟨clearing_nameable, answering, carried, result, after, ran, balanced, count, error⟩

end Walk

end GenWalk
