import GenWalk.Adapter.Mock
import Mathlib.Data.List.DropRight

/-!
What a mock remembers. It holds the contexts that were executed since its last reset, and what it
answers goes by the failures that were set since then, the latest for each key
(`Mock.holds_history`).
-/

namespace GenWalk

inductive MockCall where
  | setFailure (key error : Text)
  | validate (context : Context)
  | execute (context : Context)
  | reset
deriving DecidableEq

inductive MockAnswer where
  | done
  | verdict (objection? : Option Text)
  | receipt (receipt : Receipt)

namespace MockCall

def isReset : MockCall → Bool
  | reset => true
  | _ => false

def executed? : MockCall → Option Context
  | execute context => some context
  | _ => none

def failure? : MockCall → Option (Text × Text)
  | setFailure key error => some (key, error)
  | _ => none

/-- The calls behind the last reset. -/
def sinceReset (history : List MockCall) : List MockCall := history.rtakeWhile (!·.isReset)

def executed (calls : List MockCall) : List Context := calls.filterMap executed?

def Keyed (calls : List MockCall) (key : Text) : Prop := ∃ error, setFailure key error ∈ calls

/-- The error is the one that was set last for the key. -/
def Latest (calls : List MockCall) (key error : Text) : Prop :=
  ∃ before after, calls = before ++ setFailure key error :: after ∧ ¬Keyed after key

/-- With what error the context fails by the calls, if it does: a command counts more than a path. -/
inductive Settles (calls : List MockCall) (context : Context) : Option Text → Prop where
  | command {error : Text} : Latest calls context.command error → Settles calls context (some error)
  | path {error : Text} : ¬Keyed calls context.command → Latest calls context.path error →
      Settles calls context (some error)
  | nowhere : ¬Keyed calls context.command → ¬Keyed calls context.path →
      Settles calls context none

variable {calls : List MockCall} {key error : Text} {context : Context}

theorem sinceReset_concat (history : List MockCall) {call : MockCall} (kept : call.isReset = false) :
    sinceReset (history ++ [call]) = sinceReset history ++ [call] :=
  List.rtakeWhile_concat_pos _ _ _ (by rw [kept, Bool.not_false])

theorem sinceReset_reset (history : List MockCall) : sinceReset (history ++ [reset]) = [] :=
  List.rtakeWhile_concat_neg _ _ _ Bool.false_ne_true

theorem executed_concat (calls : List MockCall) (call : MockCall) :
    executed (calls ++ [call]) = executed calls ++ call.executed?.toList := by
  rw [executed, List.filterMap_append, List.filterMap_eq_flatMap_toList _ [call],
    List.flatMap_singleton, ← executed]

theorem eq_setFailure {call : MockCall} (set : call.failure? = some (key, error)) :
    call = setFailure key error := by
  cases call with
  | setFailure key' error' =>
    obtain ⟨rfl, rfl⟩ := Prod.mk.inj (Option.some.inj set)
    rfl
  | validate context => cases set
  | execute context => cases set
  | reset => cases set

theorem Latest.keyed (latest : Latest calls key error) : Keyed calls key := by
  obtain ⟨before, after, rfl, _⟩ := latest
  exact ⟨error, List.mem_append_right before List.mem_cons_self⟩

def failures (calls : List MockCall) : List (Text × Text) := (calls.filterMap failure?).reverse

theorem failures_concat (calls : List MockCall) (call : MockCall) :
    failures (calls ++ [call]) = call.failure?.toList ++ failures calls := by
  have single : (call.failure?.toList).reverse = call.failure?.toList := by
    cases call.failure? with
    | some failure => rfl
    | none => rfl
  rw [failures, List.filterMap_append, List.reverse_append,
    List.filterMap_eq_flatMap_toList _ [call], List.flatMap_singleton, single, ← failures]

theorem not_keyed_of_lookup (absent : (failures calls).lookup key = none) : ¬Keyed calls key := by
  rintro ⟨error, member⟩
  have listed : (key, error) ∈ failures calls :=
    List.mem_reverse.2 (List.mem_filterMap.2 ⟨_, member, rfl⟩)
  have different := List.lookup_eq_none_iff.1 absent _ listed
  exact bne_iff_ne.1 different rfl

theorem latest_of_lookup (found : (failures calls).lookup key = some error) :
    Latest calls key error := by
  obtain ⟨newer, older, listed, others⟩ := List.lookup_eq_some_iff.1 found
  have inOrder : calls.filterMap failure? = older.reverse ++ (key, error) :: newer.reverse := by
    rw [List.reverse_eq_iff.1 listed, List.reverse_append, List.reverse_cons, List.append_assoc]
    rfl
  obtain ⟨before, rest, rfl, _, behind⟩ := List.filterMap_eq_append_iff.1 inOrder
  obtain ⟨between, call, after, rfl, _, set, later⟩ := List.filterMap_eq_cons_iff.1 behind
  refine ⟨before ++ between, after, ?_, ?_⟩
  · rw [eq_setFailure set, List.append_assoc]
  · rintro ⟨error', member⟩
    have newest : (key, error') ∈ newer :=
      List.mem_reverse.1 (later ▸ List.mem_filterMap.2 ⟨_, member, rfl⟩)
    exact bne_iff_ne.1 (others _ newest) rfl

theorem settles_lookup (calls : List MockCall) (context : Context) :
    Settles calls context
      (((failures calls).lookup context.command).or ((failures calls).lookup context.path)) := by
  cases byCommand : (failures calls).lookup context.command with
  | some error => exact .command (latest_of_lookup byCommand)
  | none =>
    have unkeyed := not_keyed_of_lookup byCommand
    cases byPath : (failures calls).lookup context.path with
    | some error => exact .path unkeyed (latest_of_lookup byPath)
    | none => exact .nowhere unkeyed (not_keyed_of_lookup byPath)

theorem Settles.isSome_iff {error? : Option Text} (settles : Settles calls context error?) :
    error?.isSome ↔ Keyed calls context.command ∨ Keyed calls context.path := by
  cases settles with
  | command latest => exact iff_of_true rfl (Or.inl latest.keyed)
  | path _ latest => exact iff_of_true rfl (Or.inr latest.keyed)
  | nowhere unkeyed unkeyed' => exact iff_of_false Bool.false_ne_true (not_or.2 ⟨unkeyed, unkeyed'⟩)

end MockCall

namespace Mock

def itself (mock : Mock) : Adapter Mock := adapter mock.name id fun after _ => after

def answer (mock : Mock) : MockCall → MockAnswer × Mock
  | .setFailure key error => (.done, mock.setFailure key error)
  | .validate context => (.verdict (mock.itself.objection? context), mock)
  | .execute context =>
    let (receipt, after) := mock.itself.execute context mock
    (.receipt receipt, after)
  | .reset => (.done, mock.reset)

def after (mock : Mock) (history : List MockCall) : Mock :=
  history.foldl (fun current call => (current.answer call).2) mock

def receiptOf (name output : Text) (context : Context) : Option Text → Receipt
  | some error => context.failure name error
  | none => { context.success name output with metadata := [(.text "mock", .boolean true)] }

theorem isFailed_receiptOf (name output : Text) (context : Context) (error? : Option Text) :
    (receiptOf name output context error?).isFailed = error?.isSome := by
  cases error? with
  | some error => rfl
  | none => rfl

theorem answer_execute (mock : Mock) (context : Context) :
    mock.answer (.execute context) =
      (.receipt (receiptOf mock.name mock.output context (mock.failure? context)),
        { mock with calls := mock.calls ++ [context] }) := by
  show (MockAnswer.receipt (mock.receipt context), _) = _
  unfold receipt
  cases mock.failure? context with
  | some error => rfl
  | none => rfl

/-- The mock with the name and the output holds what the calls have left. -/
structure Holds (name output : Text) (calls : List MockCall) (mock : Mock) : Prop where
  name : mock.name = name
  output : mock.output = output
  listed : mock.calls = MockCall.executed calls
  failing : mock.failures = MockCall.failures calls

variable {mock : Mock} {name output : Text} {history : List MockCall}

theorem Holds.concat {call : MockCall} {next : Mock} (kept : call.isReset = false)
    (holds : Holds name output (MockCall.sinceReset history) mock)
    (sameName : next.name = mock.name) (sameOutput : next.output = mock.output)
    (listed : next.calls = mock.calls ++ call.executed?.toList)
    (failing : next.failures = call.failure?.toList ++ mock.failures) :
    Holds name output (MockCall.sinceReset (history ++ [call])) next := by
  rw [MockCall.sinceReset_concat history kept]
  refine ⟨sameName.trans holds.name, sameOutput.trans holds.output, ?_, ?_⟩
  · rw [listed, holds.listed, MockCall.executed_concat]
  · rw [failing, holds.failing, MockCall.failures_concat]

theorem Holds.answer (holds : Holds name output (MockCall.sinceReset history) mock)
    (call : MockCall) :
    Holds name output (MockCall.sinceReset (history ++ [call])) (mock.answer call).2 := by
  have unlisted : mock.calls = mock.calls ++ [] := (List.append_nil _).symm
  cases call with
  | setFailure key error => exact holds.concat rfl rfl rfl unlisted rfl
  | validate context => exact holds.concat rfl rfl rfl unlisted rfl
  | execute context => exact holds.concat rfl rfl rfl rfl rfl
  | reset =>
    rw [MockCall.sinceReset_reset]
    exact ⟨holds.name, holds.output, rfl, rfl⟩

theorem after_concat (mock : Mock) (history : List MockCall) (call : MockCall) :
    mock.after (history ++ [call]) = ((mock.after history).answer call).2 :=
  List.foldl_concat ..

theorem holds_after (name output : Text) (history : List MockCall) :
    Holds name output (MockCall.sinceReset history) (after { name, output } history) := by
  induction history using List.reverseRecOn with
  | nil => exact ⟨rfl, rfl, rfl, rfl⟩
  | append_singleton before call ih =>
    rw [after_concat]
    exact ih.answer call

theorem Holds.settles {calls : List MockCall} (holds : Holds name output calls mock)
    (context : Context) : MockCall.Settles calls context (mock.failure? context) := by
  rw [failure?, holds.failing]
  exact MockCall.settles_lookup calls context

structure AlikeBut (key : Text) (told plain : Mock) : Prop where
  name : told.name = plain.name
  output : told.output = plain.output
  calls : told.calls = plain.calls
  failures : ∀ other, other ≠ key → told.failures.lookup other = plain.failures.lookup other

variable {told plain : Mock} {key : Text}

theorem AlikeBut.setFailure (mock : Mock) (key error : Text) :
    AlikeBut key (mock.setFailure key error) mock where
  name := rfl
  output := rfl
  calls := rfl
  failures other different := by
    show List.lookup other ((key, error) :: mock.failures) = _
    rw [List.lookup_cons, beq_eq_false_iff_ne.2 different]

theorem AlikeBut.failure?_eq (alike : AlikeBut key told plain) {context : Context}
    (command : context.command ≠ key) (path : context.path ≠ key) :
    told.failure? context = plain.failure? context := by
  rw [failure?, failure?, alike.failures _ command, alike.failures _ path]

theorem AlikeBut.answer (alike : AlikeBut key told plain) (call : MockCall) :
    AlikeBut key (told.answer call).2 (plain.answer call).2 := by
  cases call with
  | setFailure key' error =>
    refine ⟨alike.name, alike.output, alike.calls, fun other different => ?_⟩
    show List.lookup other ((key', error) :: told.failures) =
      List.lookup other ((key', error) :: plain.failures)
    rw [List.lookup_cons, List.lookup_cons, alike.failures other different]
  | validate context => exact alike
  | execute context =>
    rw [answer_execute, answer_execute]
    exact ⟨alike.name, alike.output, congrArg (· ++ [context]) alike.calls, alike.failures⟩
  | reset => exact ⟨alike.name, alike.output, rfl, fun _ _ => rfl⟩

theorem AlikeBut.after (alike : AlikeBut key told plain) (later : List MockCall) :
    AlikeBut key (told.after later) (plain.after later) := by
  induction later generalizing told plain with
  | nil => exact alike
  | cons call rest ih => exact ih (alike.answer call)

theorem AlikeBut.answer_execute (alike : AlikeBut key told plain) {context : Context}
    (command : context.command ≠ key) (path : context.path ≠ key) :
    (told.answer (.execute context)).1 = (plain.answer (.execute context)).1 := by
  rw [Mock.answer_execute, Mock.answer_execute, alike.name, alike.output,
    alike.failure?_eq command path]

/-- Whatever calls there were, a mock has listed the contexts that were executed since the last
reset, and a context fails exactly if since then a failure was set for its command, whose latest
error it then gets, or for its path. A question whether it can be run changes nothing, and a failure
that is set changes neither the list nor, at any later time, what comes of contexts with another
command and another path. -/
theorem holds_history (name output : Text) (history : List MockCall) :
    let fresh : Mock := { name, output }
    let recent := MockCall.sinceReset history
    let now := fresh.after history
    (now.calls = MockCall.executed recent ∧
      now.calls.length = (MockCall.executed recent).length ∧
      now.commands = (MockCall.executed recent).map Context.command) ∧
    (∀ context, now.answer (.validate context) = (.verdict context.objection?, now)) ∧
    (∀ context, ∃ error?, MockCall.Settles recent context error? ∧
      (now.answer (.execute context)).1 = .receipt (receiptOf name output context error?) ∧
      ((receiptOf name output context error?).isFailed ↔
        MockCall.Keyed recent context.command ∨ MockCall.Keyed recent context.path)) ∧
    ∀ key error later,
      let told := fresh.after (history ++ .setFailure key error :: later)
      let untold := fresh.after (history ++ later)
      told.calls = untold.calls ∧ ∀ context, context.command ≠ key → context.path ≠ key →
        (told.answer (.execute context)).1 = (untold.answer (.execute context)).1 := by
  intro fresh recent now
  have holds : Holds name output recent now := holds_after name output history
  refine ⟨⟨holds.listed, congrArg List.length holds.listed, congrArg (List.map _) holds.listed⟩,
    fun context => rfl, fun context => ?_, fun key error later => ?_⟩
  · have settles := holds.settles context
    refine ⟨now.failure? context, settles, ?_, ?_⟩
    · rw [answer_execute, holds.name, holds.output]
    · rw [isFailed_receiptOf]
      exact settles.isSome_iff
  · intro told untold
    have alike : AlikeBut key told untold := by
      simp only [told, untold, after, List.foldl_append]
      exact (AlikeBut.setFailure now key error).after later
    exact ⟨alike.calls, fun context command path => alike.answer_execute command path⟩

example :
    let context : Context := { directive := { command := "a", path := "p", root := ".", expanded := "a" } }
    let now := after {} [.setFailure "a" "old", .execute context, .reset, .setFailure "a" "first",
      .setFailure "p" "second", .execute context]
    now.calls = [context] ∧ now.failure? context = some (Text.ofString "first") := by
  decide

end Mock

end GenWalk
