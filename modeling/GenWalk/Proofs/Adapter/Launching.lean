import GenWalk.Adapter.Process
import GenWalk.Proofs.Text.LineEnds
import Mathlib.Data.List.Nodup

/-!
What the receipt of a process tells. Launching is watched, so that the receipt can be held against
all attempts that were made (`ProcessAdapter.execute_tells`). Endings are told apart by their words,
for no name of a signal is a number (`Ending.describe_injective`).
-/

namespace GenWalk

namespace Text

theorem ofString_injective : Function.Injective ofString := fun _ _ same =>
  String.toList_injective (List.map_injective_iff.2 (fun _ _ => Glyph.char.inj) same)

theorem ofNat_injective : Function.Injective ofNat := by
  intro first second same
  rw [ofNat_eq, ofNat_eq] at same
  have digits := List.map_injective_iff.2 (fun _ _ => Glyph.char.inj) same
  calc
    first = Nat.ofDigitChars 10 (Nat.toDigits 10 first) 0 := Nat.ofDigitChars_ten_toDigits.symm
    _ = Nat.ofDigitChars 10 (Nat.toDigits 10 second) 0 := by rw [digits]
    _ = second := Nat.ofDigitChars_ten_toDigits

theorem not_mem_ofNat {letter : Char} (undigital : letter.isDigit = false) (number : Nat) :
    .char letter ∉ ofNat number := by
  rw [ofNat_eq]
  intro member
  obtain ⟨digit, written, same⟩ := List.mem_map.1 member
  cases Glyph.char.inj same
  cases (Nat.isDigit_of_mem_toDigits (by decide) (by decide) written).symm.trans undigital

end Text

namespace Ending

/-- The words stand for a signal: a name that the number has, or the number itself. -/
inductive Stands (signal : Nat) : Text → Prop where
  | name {name : String} (known : (signal, name) ∈ signalNames) : Stands signal name
  | number : Stands signal (Text.ofNat signal)

theorem Stands.name_ne_number {signal : Nat} {name : String}
    (known : (signal, name) ∈ signalNames) (number : Nat) :
    Text.ofString name ≠ Text.ofNat number := by
  have lettered : ∀ entry ∈ signalNames, Glyph.char 'S' ∈ Text.ofString entry.2 := by decide
  intro same
  exact Text.not_mem_ofNat (by decide) number (same ▸ lettered _ known)

theorem Stands.unique {signal other : Nat} {words words' : Text} (stands : Stands signal words)
    (stands' : Stands other words') (same : words = words') : signal = other := by
  cases stands with
  | name known =>
    cases stands' with
    | name known' =>
      have distinct : (signalNames.map Prod.snd).Nodup := by decide
      exact congrArg Prod.fst
        (List.inj_on_of_nodup_map distinct known known' (Text.ofString_injective same))
    | number => exact absurd same (name_ne_number known other)
  | number =>
    cases stands' with
    | name known' => exact absurd same.symm (name_ne_number known' signal)
    | number => exact Text.ofNat_injective same

theorem describe_killed (signal : Nat) : ∃ words, Stands signal words ∧
    describe (killed signal) = Text.ofString "signal: " ++ words := by
  cases known : signalNames.lookup signal with
  | none => exact ⟨_, .number, by simp only [describe, known]⟩
  | some name =>
    obtain ⟨before, after, split, _⟩ := List.lookup_eq_some_iff.1 known
    have member : (signal, name) ∈ signalNames := by
      rw [split]
      exact List.mem_append_right _ List.mem_cons_self
    exact ⟨_, .name member, by simp only [describe, known]⟩

theorem describe_exited_ne_killed (code signal : Nat) :
    describe (exited code) ≠ describe (killed signal) := by
  obtain ⟨words, _, told⟩ := describe_killed signal
  rw [told]
  intro same
  cases congrArg List.head? same

theorem describe_injective : Function.Injective describe := by
  intro first second same
  cases first with
  | exited code =>
    cases second with
    | exited other => exact congrArg exited (Text.ofNat_injective (List.append_cancel_left same))
    | killed signal => exact absurd same (describe_exited_ne_killed code signal)
  | killed signal =>
    cases second with
    | exited code => exact absurd same.symm (describe_exited_ne_killed code signal)
    | killed other =>
      obtain ⟨words, stands, told⟩ := describe_killed signal
      obtain ⟨words', stands', told'⟩ := describe_killed other
      rw [told, told'] at same
      exact congrArg killed (stands.unique stands' (List.append_cancel_left same))

end Ending

variable {World : Type}

/-- A launch that was tried, and what came of it. -/
structure Attempt where
  arguments : List Text
  environment : Environment
  outcome : Except Fault Ending

def Launcher.watched (launch : Launcher World) : Launcher (World × List Attempt) :=
  fun arguments environment (world, attempts) =>
    let (outcome, after) := launch arguments environment world
    (outcome, after, attempts ++ [{ arguments, environment, outcome }])

/-- No process is killed by a signal of number zero, for there is none. -/
def Launcher.Numbered (launch : Launcher World) : Prop :=
  ∀ arguments environment world, (launch arguments environment world).1 ≠ .ok (.killed 0)

def Context.attempt (context : Context) (outcome : Except Fault Ending) : Attempt where
  arguments := context.arguments
  environment := context.environment
  outcome

namespace ProcessAdapter

def launched (note : LogRecord → World → World) (launch : Launcher World) (context : Context)
    (world : World) : Except Fault Ending × World :=
  launch context.arguments context.environment <| note {
    level := Level.debug
    source
    message := "Executing: " ++ Text.quotedList context.arguments } world

def watched (note : LogRecord → World → World) (launch : Launcher World) (context : Context)
    (world : World) : Receipt × World × List Attempt :=
  execute (fun record (world, attempts) => (note record world, attempts)) launch.watched context
    (world, [])

def Started (attempts : List Attempt) (ending : Ending) : Prop :=
  ∃ attempt ∈ attempts, attempt.outcome = .ok ending

def Refused (attempts : List Attempt) (fault : Fault) : Prop :=
  ∃ attempt ∈ attempts, attempt.outcome = .error fault

/-- The receipt of a context tells what came of the attempts: whether a process was started and with
which code it ended, or which program was refused. -/
structure Tells (context : Context) (receipt : Receipt) (attempts : List Attempt) : Prop where
  command : receipt.command = context.command
  path : receipt.path = context.path
  attempted : attempts.map (fun attempt => (attempt.arguments, attempt.environment)) =
    if context.arguments = [] then [] else [(context.arguments, context.environment)]
  isOk : receipt.status = .ok ↔ ∃ ending, Started attempts ending ∧ ending.returnCode = 0
  failed : receipt.status ≠ .ok → receipt.status = .failed ∧ receipt.error ≠ none
  unstarted : receipt.returnCode = none ↔ ∀ ending, ¬Started attempts ending
  returnCode : ∀ code, receipt.returnCode = some code →
    ∃ ending, Started attempts ending ∧ ending.returnCode = code
  program : ∀ value, Value.field? receipt.metadata "program" = some value ↔
    (∃ fault, Refused attempts fault) ∧
      ∃ program, context.arguments.head? = some program ∧ value = .text program
  empty : receipt.error = some (Text.ofString "empty command") ∧ attempts = [] ↔
    context.arguments = []

section
variable {note : LogRecord → World → World} {launch : Launcher World} {context : Context}

@[simp] theorem started_attempt {outcome : Except Fault Ending} {ending : Ending} :
    Started [context.attempt outcome] ending ↔ outcome = .ok ending := by
  simp [Started, Context.attempt]

@[simp] theorem refused_attempt {outcome : Except Fault Ending} {fault : Fault} :
    Refused [context.attempt outcome] fault ↔ outcome = .error fault := by
  simp [Refused, Context.attempt]

@[simp] theorem not_started_nil {ending : Ending} : ¬Started [] ending := by
  simp [Started]

@[simp] theorem not_refused_nil {fault : Fault} : ¬Refused [] fault := by
  simp [Refused]

theorem execute_of_unlaunched (empty : context.arguments = []) (world : World) :
    execute note launch context world = (context.failure name Context.emptyCommand, world) := by
  simp [execute, Context.objection?, empty]

theorem execute_of_launched (filled : context.arguments ≠ []) (world : World) :
    execute note launch context world =
      (receipt context (launched note launch context world).1,
        (launched note launch context world).2) := by
  have unopposed : context.objection? = none := by
    simp [Context.objection?, filled]
  simp only [execute, unopposed]
  rfl

theorem receipt_of_ended {ending : Ending} (bad : ending.returnCode ≠ 0) :
    receipt context (.ok ending) = { context.failure name ending.describe with
      returnCode := some ending.returnCode } := by
  unfold receipt
  split
  next same => cases same
  next same => cases same; exact absurd rfl bad
  next same => cases same; rfl

theorem returnCode_receipt (ending : Ending) :
    (receipt context (.ok ending)).returnCode = some ending.returnCode := by
  unfold receipt
  split
  next same => cases same
  next same => cases same; rfl
  next same => cases same; rfl

theorem tells_unlaunched (empty : context.arguments = []) :
    Tells context (context.failure name Context.emptyCommand) [] where
  command := rfl
  path := rfl
  attempted := by rw [if_pos empty]; rfl
  isOk := by simp [Context.failure]
  failed _ := ⟨rfl, Option.some_ne_none _⟩
  unstarted := by simp [Context.failure]
  returnCode := by simp [Context.failure]
  program := by simp [Context.failure, Value.field?]
  empty := by simp [Context.failure, Context.emptyCommand, empty]

theorem tells_refused (filled : context.arguments ≠ []) (fault : Fault) :
    Tells context (receipt context (.error fault)) [context.attempt (.error fault)] where
  command := rfl
  path := rfl
  attempted := by rw [if_neg filled]; rfl
  isOk := by simp [receipt, Context.failure]
  failed _ := ⟨rfl, Option.some_ne_none _⟩
  unstarted := by simp [receipt, Context.failure]
  returnCode := by simp [receipt, Context.failure]
  program := by
    obtain ⟨program, others, split⟩ := List.exists_cons_of_ne_nil filled
    simp [receipt, Value.field?, split, eq_comm]
  empty := by simp [filled]

theorem tells_succeeded (filled : context.arguments ≠ []) :
    Tells context (receipt context (.ok (.exited 0))) [context.attempt (.ok (.exited 0))] where
  command := rfl
  path := rfl
  attempted := by rw [if_neg filled]; rfl
  isOk := by simp [receipt, Context.success, Ending.returnCode]
  failed unwell := absurd rfl unwell
  unstarted := by simp [receipt]
  returnCode := by simp [receipt, Ending.returnCode]
  program := by simp [receipt, Context.success, Value.field?]
  empty := by simp [filled]

theorem tells_ended (filled : context.arguments ≠ []) {ending : Ending}
    (bad : ending.returnCode ≠ 0) :
    Tells context (receipt context (.ok ending)) [context.attempt (.ok ending)] := by
  rw [receipt_of_ended bad]
  exact {
    command := rfl
    path := rfl
    attempted := by rw [if_neg filled]; rfl
    isOk := by simp [Context.failure, bad]
    failed := fun _ => ⟨rfl, Option.some_ne_none _⟩
    unstarted := by simp
    returnCode := by simp
    program := by simp [Context.failure, Value.field?]
    empty := by simp [filled] }

theorem tells_launched (filled : context.arguments ≠ []) {outcome : Except Fault Ending}
    (real : outcome ≠ .ok (.killed 0)) :
    Tells context (receipt context outcome) [context.attempt outcome] := by
  cases outcome with
  | error fault => exact tells_refused filled fault
  | ok ending =>
    by_cases bad : ending.returnCode = 0
    · cases ending with
      | exited code =>
        cases Int.ofNat.inj bad
        exact tells_succeeded filled
      | killed signal =>
        -- Only the signal of number zero would have the code of a good end.
        have same : signal = 0 := Int.ofNat.inj (Int.neg_eq_zero.1 bad)
        exact absurd (same ▸ rfl) real
    · exact tells_ended filled bad

theorem error_of_returnCode (world : World) {code : Int} (bad : code ≠ 0)
    (told : (execute note launch context world).1.returnCode = some code) :
    ∃ ending : Ending, ending.returnCode = code ∧
      (execute note launch context world).1.error = some ending.describe := by
  rcases eq_or_ne context.arguments [] with empty | filled
  · rw [execute_of_unlaunched empty] at told
    cases told
  · rw [execute_of_launched filled] at told ⊢
    cases outcome : (launched note launch context world).1 with
    | error fault =>
      rw [outcome] at told
      cases told
    | ok ending =>
      rw [outcome] at told
      have same : ending.returnCode = code :=
        Option.some.inj ((returnCode_receipt ending).symm.trans told)
      rw [receipt_of_ended (same ▸ bad)]
      exact ⟨ending, same, rfl⟩

end

/-- Two receipts with return codes other than zero have the same code where they have the same
error. -/
def ToldApart (first second : Receipt) : Prop :=
  ∀ code code', first.returnCode = some code → second.returnCode = some code' →
    code ≠ 0 → code' ≠ 0 → first.error = second.error → code = code'

theorem toldApart (note : LogRecord → World → World) (launch : Launcher World)
    (context : Context) (world : World) (Other : Type) (note' : LogRecord → Other → Other)
    (launch' : Launcher Other) (context' : Context) (world' : Other) :
    ToldApart (execute note launch context world).1 (execute note' launch' context' world').1 := by
  intro code code' told told' bad bad' same
  obtain ⟨ending, here, words⟩ := error_of_returnCode world bad told
  obtain ⟨ending', here', words'⟩ := error_of_returnCode world' bad' told'
  rw [words, words'] at same
  rw [← here, ← here', Ending.describe_injective (Option.some.inj same)]

/-- Executing a command gives a receipt for it. Watched, the launch does the same, and the receipt
tells what came of the attempts that were made; its error tells the ending of a process apart from
every other one that has a return code other than zero. -/
theorem execute_tells (note : LogRecord → World → World) {launch : Launcher World}
    (numbered : launch.Numbered) (context : Context) (world : World) :
    ∃ receipt after attempts, watched note launch context world = (receipt, after, attempts) ∧
      execute note launch context world = (receipt, after) ∧ Tells context receipt attempts ∧
      ∀ (Other : Type) (note' : LogRecord → Other → Other) (launch' : Launcher Other)
        (context' : Context) (world' : Other),
        ToldApart receipt (execute note' launch' context' world').1 := by
  have apart := toldApart note launch context world
  rcases eq_or_ne context.arguments [] with empty | filled
  · rw [execute_of_unlaunched empty] at apart ⊢
    exact ⟨_, _, _, execute_of_unlaunched empty _, rfl, tells_unlaunched empty, apart⟩
  · rw [execute_of_launched filled] at apart ⊢
    refine ⟨_, _, _, execute_of_launched filled _, rfl, ?_, apart⟩
    exact tells_launched filled (numbered _ _ _)

def handful : Launcher Unit := fun arguments _ world =>
  match arguments.head? with
  | some program =>
    if program = "fine" then (.ok (.exited 0), world)
    else if program = "doze" then (.ok (.killed 35), world)
    else if program = "fret" then (.ok (.exited 35), world)
    else (.error (.system .notFound program), world)
  | none => (.error .nullInName, world)

theorem handful_numbered : handful.Numbered := by
  intro arguments environment world
  unfold handful
  repeat' split
  all_goals
    intro same
    cases same

def calling (command : Text) : Context where
  directive := { command, path := "f", root := ".", expanded := command }

def handled (command : Text) : Receipt :=
  (execute (fun _ world => world) handful (calling command) ()).1

theorem handful_told :
    handful.Numbered ∧ (handled "gone now").returnCode = none ∧
      Value.field? (handled "gone now").metadata "program" = some (.text (Text.ofString "gone")) ∧
      (handled "doze").returnCode = some (-35) ∧ (handled "fret").returnCode = some 35 ∧
      (handled "doze").error ≠ (handled "fret").error := by
  have told := execute_tells (fun _ world => world) handful_numbered
  obtain ⟨gone, _, attempts, seen, ran, tells, _⟩ := told (calling "gone now") ()
  obtain ⟨dozing, _, _, _, asleep, _, apart⟩ := told (calling "doze") ()
  have attempted : attempts =
      [(calling "gone now").attempt (.error (.system .notFound (some "gone")))] :=
    (congrArg (·.2.2) seen).symm
  have unstarted : ∀ ending, ¬Started attempts ending := by
    intro ending started
    rw [attempted, started_attempt] at started
    cases started
  have refused : ∃ fault, Refused attempts fault := by
    refine ⟨.system .notFound (some "gone"), ?_⟩
    rw [attempted, refused_attempt]
  have receipt : handled "gone now" = gone := congrArg Prod.fst ran
  rw [receipt]
  refine ⟨handful_numbered, tells.unstarted.2 unstarted,
    (tells.program _).2 ⟨refused, _, rfl, rfl⟩, rfl, rfl, ?_⟩
  intro same
  have receipt' : handled "doze" = dozing := congrArg Prod.fst asleep
  have code : (-35 : Int) = 35 := apart Unit (fun _ world => world) handful (calling "fret") ()
    (-35) 35 (receipt' ▸ rfl) rfl (by decide) (by decide) (receipt' ▸ same)
  cases code

end ProcessAdapter

end GenWalk
