import GenWalk.Proofs.CommandLine.Arguments
import GenWalk.Proofs.CommandLine.Printing
import GenWalk.Proofs.Text.Carried
import GenWalk.Proofs.Walk.Staged

/-!
The code that a run of the generators ends with. A call is what it asks for and the answer
(`course_eq`), and asking for a document besides asks for the same run (`asked_json`); the main
statement `exitCode_tells_error` says when the code tells whether the result has an error.
-/

namespace GenWalk

theorem Text.join_ne_nil {text : Text} (filled : text ≠ []) (separator : Text) (rest : List Text) :
    Text.join separator (text :: rest) ≠ [] := by
  cases rest with
  | nil => simpa [Text.join, List.intercalate] using filled
  | cons next rest => simp [Text.join, List.intercalate, filled]

theorem Fault.message_ne_nil (fault : Fault) : fault.message ≠ [] := by
  cases fault with
  | system error path => cases path <;> simp [Fault.message, Text.ofString]
  | halfInName name => exact Text.refusedFrom_ne_nil _ _
  | nullInName | illegalVariable | cyclicPath => simp [Fault.message, Text.ofString]

theorem Interruption.message_ne_nil (interruption : Interruption) : interruption.message ≠ [] := by
  cases interruption with
  | refused fault => exact fault.message_ne_nil
  | unterminated | generator => simp [Interruption.message, Text.ofString]

theorem ConfigProblem.message_ne_nil (problem : ConfigProblem) : problem.message ≠ [] := by
  cases problem with
  | invalid path issues =>
    refine Text.join_ne_nil ?_ _ _
    simp [Text.ofString]
  | missing | unreadable | malformed | notMapping => simp [ConfigProblem.message, Text.ofString]

theorem GenerateResult.error_ne_nil {result : GenerateResult} {error : Text}
    (told : result.error? = some error) : error ≠ [] := by
  unfold GenerateResult.error? at told
  cases outcome : result.outcome with
  | error problem =>
    rw [outcome] at told
    exact Option.some.inj told ▸ problem.message_ne_nil
  | ok walk =>
    rw [outcome] at told
    obtain ⟨interruption, _, rfl⟩ := Option.map_eq_some_iff.1 told
    exact interruption.message_ne_nil

namespace CommandLine

variable {World : Type}

def Workplace.adapterFor (place : Workplace World) (view : RunView) : Adapter World :=
  if view.mock then place.mock else place.processes

def answerFirst (colored : Bool) (command : Command) (wishes : List (Wish × Option Text)) :
    Course World Unit :=
  match (wishes.find? fun wish => wish.1 = .version || wish.1 = .help).map Prod.fst with
  | none => pure ()
  | some wish => do
    Course.put colored [line (if wish = .version then versionLine else command.usage)]
    throw (.exit 0)

theorem readArguments_eq (colored : Bool) (command : Command) {words : List Text}
    {arguments : Arguments}
    (reads : Arguments.read (OptionForm.ofCommand command) (!command.isGroup) words =
      .ok arguments) :
    (readArguments colored command words : Course World Arguments) =
      answerFirst colored command arguments.wishes >>= fun _ => pure arguments := by
  simp only [readArguments, reads, answerFirst]
  cases (arguments.wishes.find? fun wish => wish.1 = .version || wish.1 = .help).map Prod.fst with
  | none => rfl
  | some wish =>
    funext state
    simp only [bind, EStateM.bind]
    let told : Text := if wish = .version then versionLine else command.usage
    cases Course.put colored [line told] state <;> rfl

def demandConfig (host : Host World) (group : Command) (named : Option Text) : Course World Unit :=
  match named with
  | some path => demandPath host group configParameter .file path
  | none => pure ()

theorem readGroup_eq (host : Host World) (colored : Bool) {group : Command}
    (isGroup : group.isGroup = true) {words : List Text} {arguments : Arguments}
    (reads : Arguments.read (OptionForm.ofCommand group) false words = .ok arguments) :
    readGroup host colored group words = (do
      answerFirst colored group arguments.wishes
      demandConfig host group (arguments.value? .config)
      return arguments) := by
  have whole :
      Arguments.read (OptionForm.ofCommand group) (!group.isGroup) words = .ok arguments := by
    rw [isGroup]
    exact reads
  rw [readGroup, readArguments_eq colored group whole, bind_assoc]
  simp only [pure_bind, demandConfig]
  cases arguments.value? .config with
  | none => simp only [pure_bind]
  | some path => rfl

/-- What a call asks for, once its arguments are read: how the result is to be shown, and what is to
be run. The log is set up on the way. -/
def asked (place : Workplace World) (colored : Bool) (shared own : Arguments) :
    Course World (RunView × GenerateRequest) := do
  answerFirst colored .program shared.wishes
  demandConfig place.host .program (shared.value? .config)
  let environment := place.host.environment (← get).1
  Course.ask (place.setupLog (.ofEnvironment (verbosityOf shared) environment))
  answerFirst colored .generate own.wishes
  let directory ← directoryOf place.host .generate .any own
  let view : RunView := {
    json := own.has .json
    dryRun := own.has .dryRun
    mock := own.has .mock
    verbose := shared.has .verbose
    quiet := shared.has .quiet }
  return (view, { directory, config := configOf shared, dryRun := view.dryRun })

def answered (place : Workplace World) (colored : Bool) (view : RunView)
    (request : GenerateRequest) : Course World Nat := do
  let result ← Course.load (Generate.run place.host (place.adapterFor view) request)
  Course.put colored (view.prints result)
  return RunView.exitCode result

def generateLine (before words : List Text) : List Text :=
  before ++ Text.ofString "generate" :: words

/-- The words before the name of the command are options of the program, and the words behind it are
arguments of the command. -/
structure Reads (before words : List Text) (shared own : Arguments) : Prop where
  options : Arguments.read (OptionForm.ofCommand .program) false before = .ok shared
  onlyOptions : shared.operands = []
  arguments : Arguments.read (OptionForm.ofCommand .generate) true words = .ok own

def jsonFlags : List Text := OptionForm.json.long.map Text.ofString

theorem Reads.insert_json {before early late : List Text} {shared plain : Arguments} {flag : Text}
    (reads : Reads before (early ++ late) shared plain) (spelled : flag ∈ jsonFlags)
    (unended : [Arguments.dash, Arguments.dash] ∉ early) :
    ∃ own, Reads before (early ++ flag :: late) shared own ∧ Arguments.OneMore .json plain own := by
  have forms : ∀ form ∈ OptionForm.ofCommand .generate, form.takesValue = false := by decide
  have said : ∀ flag ∈ jsonFlags, Arguments.isOption flag = true ∧
      flag ≠ [Arguments.dash, Arguments.dash] ∧
      Arguments.part (OptionForm.ofCommand .generate) flag = .ok { wishes := [(.json, none)] } := by
    decide
  obtain ⟨option, other, parted⟩ := said flag spelled
  obtain ⟨own, read, more⟩ :=
    Arguments.read_insert forms option other parted unended reads.arguments
  exact ⟨own, ⟨reads.options, reads.onlyOptions, read⟩, more⟩

theorem course_eq (place : Workplace World) (colored : Bool) {before words : List Text}
    {shared own : Arguments} (reads : Reads before words shared own) :
    course place colored (generateLine before words) =
      asked place colored shared own >>= fun (view, request) =>
        answered place colored view request := by
  have group := Arguments.read_before_name "generate" (by decide) (by decide) reads.options
    reads.onlyOptions words
  have called : member place.host colored .program (Text.ofString "generate" :: words) =
      pure (.generate, words) := rfl
  have nonempty : (before ++ Text.ofString "generate" :: words).isEmpty = false := by simp
  simp only [generateLine, course, nonempty, readGroup_eq place.host colored rfl group, bind_assoc,
    pure_bind, called, runGenerate, readArguments_eq colored .generate reads.arguments, asked,
    answered]
  rfl

theorem asked_json (place : Workplace World) (colored : Bool) (shared : Arguments)
    {plain own : Arguments} (more : Arguments.OneMore .json plain own) :
    asked place colored shared own =
      asked place colored shared plain >>= fun (view, request) =>
        pure ({ view with json := true }, request) := by
  have first : (answerFirst colored .generate own.wishes : Course World Unit) =
      answerFirst colored .generate plain.wishes := by
    simp only [answerFirst,
      more.find? (fun wish => wish.1 = .version || wish.1 = .help) (by decide)]
  have directory : directoryOf place.host .generate .any own =
      directoryOf place.host .generate .any plain := by
    simp only [directoryOf, more.operands]
  simp only [asked, first, directory, more.has_self,
    more.has_of_ne (by decide : Wish.json ≠ .dryRun),
    more.has_of_ne (by decide : Wish.json ≠ .mock), bind_assoc, pure_bind]

theorem exitCode_eq (result : GenerateResult) :
    RunView.exitCode result = if result.error?.isSome then 1 else 0 := by
  unfold RunView.exitCode RunView.failed
  cases told : result.error? with
  | none => rfl
  | some error =>
    have filled : error.isEmpty = false := List.isEmpty_eq_false_iff.2 (result.error_ne_nil told)
    simp [filled, failureCode]

variable {place : Workplace World} {colored : Bool} {before words : List Text}
  {shared own : Arguments} {view : RunView} {request : GenerateRequest} {result : GenerateResult}
  {world started after : World} {output : Text}

theorem prints_json_clean (view : RunView) (result : GenerateResult) :
    ∀ print ∈ { view with json := true }.prints result, print.text.isClean = true := by
  intro print member
  obtain rfl := List.mem_singleton.1 member
  exact Json.isClean_render _

theorem course_of_ran (reads : Reads before words shared own)
    (asks : asked place colored shared own (world, []) = .ok (view, request) (started, output))
    (ran : Generate.run place.host (place.adapterFor view) request started = .ok result after) :
    course place colored (generateLine before words) (world, []) =
      (Course.put colored (view.prints result) >>= fun _ => pure (RunView.exitCode result))
        (after, output) := by
  rw [course_eq place colored reads]
  simp only [bind, EStateM.bind, asks, answered, Course.load, ran]

theorem run_of_clean (reads : Reads before words shared own)
    (asks : asked place colored shared own (world, []) = .ok (view, request) (started, output))
    (ran : Generate.run place.host (place.adapterFor view) request started = .ok result after)
    (clean : ∀ print ∈ view.prints result, print.text.isClean = true) :
    ∃ shown, run place colored (generateLine before words) world =
      ({ exitCode := RunView.exitCode result, output := shown }, after) := by
  have ends := course_of_ran reads asks ran
  simp only [bind, EStateM.bind, Course.put_of_clean colored clean after output] at ends
  exact ⟨_, by rw [run, ends]; rfl⟩

theorem run_of_unclean (reads : Reads before words shared own)
    (asks : asked place colored shared own (world, []) = .ok (view, request) (started, output))
    (ran : Generate.run place.host (place.adapterFor view) request started = .ok result after)
    (unclean : ¬∀ print ∈ view.prints result, print.text.isClean = true) :
    ∃ shown, run place colored (generateLine before words) world =
      ({ exitCode := failureCode, output := shown, crash? := some .unprintable }, after) := by
  obtain ⟨put, refused⟩ := Course.put_of_unclean colored unclean after output
  have ends := course_of_ran reads asks ran
  simp only [bind, EStateM.bind, refused] at ends
  exact ⟨_, by rw [run, ends]⟩

theorem run_json {early late : List Text} {flag : Text}
    (reads : Reads before (early ++ late) shared own) (spelled : flag ∈ jsonFlags)
    (unended : [Arguments.dash, Arguments.dash] ∉ early)
    (asks : asked place colored shared own (world, []) = .ok (view, request) (started, output))
    (ran : Generate.run place.host (place.adapterFor view) request started = .ok result after) :
    ∃ shown, run place colored (generateLine before (early ++ flag :: late)) world =
      ({ exitCode := RunView.exitCode result, output := shown }, after) := by
  obtain ⟨more, moreReads, oneMore⟩ := reads.insert_json spelled unended
  have moreAsks : asked place colored shared more (world, []) =
      .ok ({ view with json := true }, request) (started, output) := by
    rw [asked_json place colored shared oneMore]
    simp only [bind, EStateM.bind, pure, EStateM.pure, asks]
  exact run_of_clean moreReads moreAsks ran (prints_json_clean view result)

/-- With an option for a document, a run of the generators that has a result ends with the code that
tells whether the result has an error. Without it the same run is made, and it ends with that code
if all texts that are shown for the result can be put out. If one cannot, the command crashes. -/
theorem exitCode_tells_error (early late : List Text) {flag : Text}
    (reads : Reads before (early ++ late) shared own) (spelled : flag ∈ jsonFlags)
    (unended : [Arguments.dash, Arguments.dash] ∉ early)
    (asks : asked place colored shared own (world, []) = .ok (view, request) (started, output))
    (ran : Generate.run place.host (place.adapterFor view) request started = .ok result after) :
    let code := if result.error?.isSome then 1 else 0
    let plain := run place colored (generateLine before (early ++ late)) world
    let json := run place colored (generateLine before (early ++ flag :: late)) world
    json.1.exitCode = code ∧ json.1.crash? = none ∧ json.2 = after ∧ plain.2 = after ∧
      if ∀ print ∈ view.prints result, print.text.isClean = true then
        plain.1.exitCode = code ∧ plain.1.crash? = none
      else plain.1.exitCode = failureCode ∧ plain.1.crash? = some .unprintable := by
  intro code plain json
  have same : RunView.exitCode result = code := exitCode_eq result
  obtain ⟨document, jsonRun⟩ := run_json reads spelled unended asks ran
  simp only [json, jsonRun, same, true_and]
  by_cases clean : ∀ print ∈ view.prints result, print.text.isClean = true
  · obtain ⟨shown, plainRun⟩ := run_of_clean reads asks ran clean
    simp only [plain, plainRun, same, if_pos clean, and_self]
  · obtain ⟨shown, plainRun⟩ := run_of_unclean reads asks ran clean
    simp only [plain, plainRun, if_neg clean, and_self]

theorem exists_of_run' {ε State α β : Type} {computation : EStateM ε State α} {state : State}
    {view : α → β} {seen : β} (ran : (computation.run' state).map view = some seen) :
    ∃ value after, computation state = .ok value after ∧ view value = seen := by
  simp only [EStateM.run', EStateM.run] at ran
  cases ended : computation state with
  | error fault after =>
    rw [ended] at ran
    cases ran
  | ok value after =>
    rw [ended] at ran
    exact ⟨value, after, rfl, Option.some.inj ran⟩

def smudge : Path := { parts := ["r"] }

def smudgeBytes : Bytes := Utf8.encode "# helm:generate echo " ++ [0xFF, 0x0A]

def smudgeView : Snapshot :=
  let missing (path : Path) : Fault := .system .notFound (some path.toText)
  let kind (path : Path) : Except Fault EntryKind :=
    if path = smudge then .ok .file else .error (missing path)
  { kind
    target := kind
    names := fun directory => .error (missing directory)
    content := fun path => if path = smudge then .ok smudgeBytes else .error (missing path) }

def smudgePlace : Workplace Mock where
  host := Host.ofSnapshots fun _ => smudgeView
  setupLog _ := pure ()
  processes := Walk.orchardAdapter
  mock := Walk.orchardAdapter

set_option maxRecDepth 4000 in
theorem absence_told :
    let view : RunView := { verbose := true }
    let request : GenerateRequest := { directory := "s" }
    let shared : Arguments := { wishes := [(.verbose, none)] }
    let own : Arguments := { operands := ["s"] }
    Reads [Text.ofString "-v"] [Text.ofString "s"] shared own ∧ Text.ofString "--json" ∈ jsonFlags ∧
      asked smudgePlace false shared own ({}, []) = .ok (view, request) ({}, []) ∧
      ∃ result after,
        Generate.run smudgePlace.host (smudgePlace.adapterFor view) request {} = .ok result after ∧
        (run smudgePlace false ["-v", "generate", "s"] {}).1.exitCode = 1 ∧
        (run smudgePlace false ["-v", "generate", "--json", "s"] {}).1.exitCode = 1 := by
  intro view request shared own
  have reads : Reads [Text.ofString "-v"] [Text.ofString "s"] shared own :=
    ⟨by decide, rfl, by decide⟩
  have asks : asked smudgePlace false shared own ({}, []) = .ok (view, request) ({}, []) := by
    cbv
  let told : GenerateResult := {
    directory := "s"
    configPath? := none
    settings? := some .usual
    outcome := .ok (Walk.resultOf { root := "s" } {}
      (some (.refused (.system .notFound (some "s"))))) }
  have ran : Generate.run smudgePlace.host (smudgePlace.adapterFor view) request {} =
      .ok told {} := by
    cbv
  have clean : ∀ print ∈ view.prints told, print.text.isClean = true := by
    refine List.all_eq_true.1 ?_
    cbv
  obtain ⟨json, _, _, _, plain⟩ := exitCode_tells_error [] [Text.ofString "s"] reads
    (by decide : Text.ofString "--json" ∈ jsonFlags) List.not_mem_nil asks ran
  rw [if_pos clean] at plain
  simp only [generateLine, List.nil_append, List.cons_append] at json plain
  exact ⟨reads, by decide, asks, told, {}, ran, plain.1, json⟩

set_option maxRecDepth 2000 in
/-- A result without error crashes the command while it is shown, unless as a document. -/
theorem smudge_crashes :
    (∃ result after,
        Generate.run smudgePlace.host smudgePlace.processes
            { directory := "r", dryRun := true } {} = .ok result after ∧
          result.error? = none) ∧
      (run smudgePlace false ["generate", "--dry-run", "r"] {}).1.exitCode = 1 ∧
      (run smudgePlace false ["generate", "--dry-run", "r"] {}).1.crash? = some .unprintable ∧
      (run smudgePlace false ["generate", "--dry-run", "--json", "r"] {}).1.exitCode = 0 := by
  have plain : ((run smudgePlace false ["generate", "--dry-run", "r"] {}).1.exitCode,
      (run smudgePlace false ["generate", "--dry-run", "r"] {}).1.crash?) =
        (1, some .unprintable) := by
    cbv
  obtain ⟨code, crash⟩ := Prod.mk.inj plain
  have reads : Reads [] ([Text.ofString "--dry-run"] ++ [Text.ofString "r"]) {}
      { wishes := [(.dryRun, none)], operands := ["r"] } :=
    ⟨rfl, rfl, by decide⟩
  have asks :
      asked smudgePlace false {} { wishes := [(.dryRun, none)], operands := ["r"] } ({}, []) =
        .ok ({ dryRun := true }, { directory := "r", dryRun := true }) ({}, []) := by
    cbv
  have evaluated : ((Generate.run smudgePlace.host smudgePlace.processes
      { directory := "r", dryRun := true }).run' {}).map GenerateResult.error? = some none := by
    cbv
  obtain ⟨result, after, ran, fine⟩ := exists_of_run' evaluated
  obtain ⟨shown, document⟩ := run_json reads (by decide : Text.ofString "--json" ∈ jsonFlags)
    (by decide) asks ran
  have zero : RunView.exitCode result = 0 := by simp [exitCode_eq, fine]
  simp only [generateLine, List.nil_append, List.cons_append] at document
  refine ⟨⟨result, after, ran, fine⟩, code, crash, ?_⟩
  rw [document]
  exact zero

end CommandLine

end GenWalk
