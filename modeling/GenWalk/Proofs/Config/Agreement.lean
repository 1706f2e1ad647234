import GenWalk.Config.Check
import GenWalk.Generate
import GenWalk.Proofs.Walk.Preview

/-!
A check of a configuration and a run under it agree. Both read the configuration in the same way, so
that a run is a check with a walk behind it (`Generate.run_eq_bind`); the main statement
`Generate.agrees_with_check` says what follows for their results.
-/

namespace GenWalk

variable {World World' : Type} {worlds : World → World' → Prop} {host : Host World}
  {host' : Host World'}

/-- Two machines answer alike what is asked while a configuration is read. -/
structure Host.AlikeForConfig (worlds : World → World' → Prop) (host : Host World)
    (host' : Host World') : Prop where
  target : ∀ path, GenWalk.Alike worlds (host.target path) (host'.target path)
  content : ∀ path, GenWalk.Alike worlds (host.content path) (host'.content path)
  resolve : ∀ path, GenWalk.Alike worlds (host.resolve path) (host'.resolve path)
  note : ∀ record world world', worlds world world' →
    worlds (host.note record world) (host'.note record world')

theorem Host.AlikeForConfig.isFile (alike : host.AlikeForConfig worlds host') (path : Path) :
    GenWalk.Alike worlds (host.isFile path) (host'.isFile path) :=
  .leadsTo .file (alike.target path)

namespace Config

theorem ask_alike {α : Type} {query : Query World α} {query' : Query World' α}
    (same : Alike worlds query query') : Alike worlds (Loading.ask query) (Loading.ask query') := by
  intro world world' near
  simp only [Loading.ask]
  rcases (same world world' near).elim with ⟨value, after, after', ran, ran', later⟩ |
    ⟨fault, after, after', ran, ran', later⟩
  · rw [ran, ran']
    exact ⟨rfl, later⟩
  · rw [ran, ran']
    exact ⟨rfl, later⟩

theorem searchUp_alike (alike : host.AlikeForConfig worlds host') (directories : Nat)
    (directory : Path) :
    Alike worlds (searchUp host directories directory) (searchUp host' directories directory) := by
  induction directories generalizing directory with
  | zero => exact .pure none
  | succ directories ih =>
    refine .bind (alike.isFile _) fun isFile => ?_
    cases isFile with
    | true => exact .pure _
    | false =>
      simp only [Bool.false_eq_true, if_false]
      split
      next => exact .pure none
      next => exact ih directory.parent

theorem choose_alike (alike : host.AlikeForConfig worlds host') (named : Option Path)
    (directory : Path) :
    Alike worlds (choose host named directory) (choose host' named directory) := by
  cases named with
  | some path => exact .pure (some path)
  | none => exact .bind (alike.resolve directory) fun start => searchUp_alike alike searchLimit start

theorem readBytes_alike (alike : host.AlikeForConfig worlds host') (path : Path) :
    Alike worlds (readBytes host path) (readBytes host' path) := by
  intro world world' near
  simp only [readBytes]
  rcases (alike.content path world world' near).elim with ⟨value, after, after', ran, ran', later⟩ |
    ⟨fault, after, after', ran, ran', later⟩
  · rw [ran, ran']
    exact ⟨rfl, later⟩
  · rw [ran, ran']
    by_cases system : fault.isSystem
    · simp only [if_pos system]
      exact ⟨rfl, later⟩
    · simp only [if_neg system]
      exact ⟨rfl, later⟩

theorem note_alike (alike : host.AlikeForConfig worlds host') (level : Level) (message : Text) :
    Alike worlds (Loading.note host level message) (Loading.note host' level message) :=
  fun world world' near => ⟨rfl, alike.note _ world world' near⟩

theorem load_alike (alike : host.AlikeForConfig worlds host') (path? : Option Path) :
    Alike worlds (load host path?) (load host' path?) := by
  cases path? with
  | none => exact .pure _
  | some path =>
    refine .bind (ask_alike (alike.isFile path)) fun isFile => ?_
    cases isFile with
    | false => exact .throw _
    | true =>
      refine .bind (note_alike alike _ _) fun _ => .bind (readBytes_alike alike path) fun bytes => ?_
      cases parse path bytes with
      | error failure => exact .throw failure
      | ok settings => exact .bind (note_alike alike _ _) fun _ => .pure settings

end Config

theorem ConfigCheck.run_alike (alike : host.AlikeForConfig worlds host') (named : Option Path)
    (directory : Path) :
    Alike worlds (run host named directory) (run host' named directory) := by
  refine .bind (Config.ask_alike (Config.choose_alike alike named directory)) fun path? => ?_
  intro world world' near
  simp only
  rcases (Config.load_alike alike path? world world' near).elim with
    ⟨settings, after, after', ran, ran', later⟩ | ⟨failure, after, after', ran, ran', later⟩
  · rw [ran, ran']
    exact ⟨rfl, later⟩
  · rw [ran, ran']
    cases failure with
    | problem problem => exact ⟨rfl, later⟩
    | refused fault => exact ⟨rfl, later⟩
    | notUnicode => exact ⟨rfl, later⟩
    | misfit misfit => exact ⟨rfl, later⟩

theorem Query.through_alike_keeping {Extra α : Type} (good : Extra → Prop) (query : Query World α) :
    Alike (fun (whole : World × Extra) world => whole.1 = world ∧ good whole.2)
      (query.through Prod.fst fun world whole => (world, whole.2)) query := by
  rintro ⟨world, extra⟩ _ ⟨rfl, start⟩
  simp only [Query.through]
  cases query world with
  | ok value after => exact ⟨rfl, rfl, start⟩
  | error fault after => exact ⟨rfl, rfl, start⟩

def OnlyOpened (events : List Event) : Prop := ∀ event ∈ events, ∃ path, event = .opened path

theorem OnlyOpened.concat {events : List Event} (only : OnlyOpened events) (path : Path) :
    OnlyOpened (events ++ [.opened path]) := by
  intro event member
  rcases List.mem_append.1 member with earlier | last
  · exact only event earlier
  · exact ⟨path, List.mem_singleton.1 last⟩

theorem Host.watched_alikeForConfig (host : Host World) :
    host.watched.AlikeForConfig (fun whole world => whole.1 = world ∧ OnlyOpened whole.2) host where
  target path := (host.target path).through_alike_keeping OnlyOpened
  content path := by
    rintro ⟨world, events⟩ _ ⟨rfl, only⟩
    cases asked : host.content path world with
    | ok bytes after =>
      rw [watched_read asked]
      exact ⟨rfl, rfl, only.concat path⟩
    | error fault after =>
      rw [watched_refused asked]
      exact ⟨rfl, rfl, only.concat path⟩
  resolve path := (host.resolve path).through_alike_keeping OnlyOpened
  note record whole world near := ⟨congrArg (host.note record) near.1, near.2⟩

namespace ConfigCheck

variable {check : ConfigCheck}

theorem tells_of_settings {settings : Settings} (outcome : check.outcome = .ok settings) :
    check.isValid = true ∧ check.errors = [] ∧ check.settings? = some settings := by
  unfold isValid errors settings?
  rw [outcome]
  exact ⟨rfl, rfl, rfl⟩

theorem tells_of_problem {problem : ConfigProblem} (outcome : check.outcome = .error problem) :
    check.isValid = false ∧ check.errors = [problem.message] ∧ check.settings? = none := by
  unfold isValid errors settings?
  rw [outcome]
  exact ⟨rfl, rfl, rfl⟩

end ConfigCheck

namespace Generate

def behind (host : Host World) (adapter : Adapter World) (request : GenerateRequest)
    (check : ConfigCheck) : Config.Loading World GenerateResult :=
  fun world => match check.outcome with
  | .error problem => .ok {
      directory := request.directory
      configPath? := check.path?
      settings? := none
      outcome := .error problem } world
  | .ok settings =>
    match Walk.run host adapter { root := request.directory, settings, dryRun := request.dryRun }
      world with
    | .error fault after => .error (.refused fault) after
    | .ok walk after => .ok {
        directory := request.directory
        configPath? := check.path?
        settings? := some settings
        outcome := .ok walk } (host.note (report request.directory walk) after)

theorem run_eq_bind (host : Host World) (adapter : Adapter World) (request : GenerateRequest) :
    run host adapter request =
      ConfigCheck.run host request.config (Path.ofText request.directory) >>=
        behind host adapter request := by
  funext world
  simp only [run, ConfigCheck.run, bind, EStateM.bind]
  cases Config.Loading.ask
      (Config.choose host request.config (Path.ofText request.directory)) world with
  | error failure after => rfl
  | ok path? located =>
    simp only
    cases Config.load host path? located with
    | ok settings after => rfl
    | error failure after =>
      cases failure with
      | problem problem => rfl
      | refused fault => rfl
      | notUnicode => rfl
      | misfit misfit => rfl

theorem run_of_failed {adapter : Adapter World} {request : GenerateRequest} {world after : World}
    {failure : ConfigFailure}
    (failed : ConfigCheck.run host request.config (Path.ofText request.directory) world =
      .error failure after) :
    run host adapter request world = .error failure after := by
  rw [run_eq_bind]
  simp only [bind, EStateM.bind, failed]

theorem run_of_checked {adapter : Adapter World} {request : GenerateRequest} {world after : World}
    {check : ConfigCheck}
    (checked : ConfigCheck.run host request.config (Path.ofText request.directory) world =
      .ok check after) :
    run host adapter request world = behind host adapter request check after := by
  rw [run_eq_bind]
  simp only [bind, EStateM.bind, checked]

def trace (host : Host World) (adapter : Adapter World) (request : GenerateRequest)
    (world : World) : List Event :=
  (ended (run host.watched adapter.watched request (world, []))).2

theorem trace_of_invalid {adapter : Adapter World} {request : GenerateRequest}
    {world after : World} {check : ConfigCheck} {problem : ConfigProblem}
    (checked : ConfigCheck.run host request.config (Path.ofText request.directory) world =
      .ok check after)
    (invalid : check.outcome = .error problem) :
    OnlyOpened (trace host adapter request world) := by
  have nothing : OnlyOpened [] := fun event member => absurd member List.not_mem_nil
  have alike := ConfigCheck.run_alike host.watched_alikeForConfig request.config
    (Path.ofText request.directory) (world, []) world ⟨rfl, nothing⟩
  rw [checked] at alike
  rcases alike.elim with ⟨_, whole, _, ran, same, _, only⟩ | ⟨_, _, _, _, same, _⟩
  · cases same
    unfold trace
    rw [run_of_checked ran, behind, invalid]
    exact only
  · cases same

/-- A check and a run of one configuration fail in the same way to find or to load it, or they speak
of the same file. If its settings can be used, the run walks with them; if not, both tell the same
one error, and no generator is run. -/
theorem agrees_with_check (host : Host World) (adapter : Adapter World) (request : GenerateRequest)
    (world : World) :
    let checked := ConfigCheck.run host request.config (Path.ofText request.directory) world
    let generated := run host adapter request world
    (∃ failure after, checked = .error failure after ∧ generated = .error failure after) ∨
    ∃ check after, checked = .ok check after ∧
      ((check.isValid = true ∧ check.errors = [] ∧ ∃ settings, check.settings? = some settings ∧
          match Walk.run host adapter
            { root := request.directory, settings, dryRun := request.dryRun } after with
          | .ok walk later => ∃ result, generated =
              .ok result (host.note (report request.directory walk) later) ∧
            result.configPath? = check.path? ∧ result.settings? = some settings ∧
            result.walk? = some walk
          | .error fault later => generated = .error (.refused fault) later) ∨
        (check.isValid = false ∧ check.settings? = none ∧ ∃ result, generated = .ok result after ∧
          result.configPath? = check.path? ∧ result.settings? = none ∧ result.walk? = none ∧
          result.count = 0 ∧ (∃ error, result.error? = some error ∧ check.errors = [error]) ∧
          ∀ event ∈ trace host adapter request world, ∃ path, event = .opened path)) := by
  intro checked generated
  cases ran : checked with
  | error failure after => exact Or.inl ⟨failure, after, rfl, run_of_failed ran⟩
  | ok check after =>
    refine Or.inr ⟨check, after, rfl, ?_⟩
    have follows : generated = behind host adapter request check after := run_of_checked ran
    cases outcome : check.outcome with
    | ok settings =>
      obtain ⟨valid, errors, same⟩ := ConfigCheck.tells_of_settings outcome
      simp only [behind, outcome] at follows
      refine Or.inl ⟨valid, errors, settings, same, ?_⟩
      cases walked : Walk.run host adapter
          { root := request.directory, settings, dryRun := request.dryRun } after with
      | error fault later =>
        simp only [walked] at follows
        exact follows
      | ok walk later =>
        simp only [walked] at follows
        exact ⟨_, follows, rfl, rfl, rfl⟩
    | error problem =>
      obtain ⟨invalid, errors, absent⟩ := ConfigCheck.tells_of_problem outcome
      simp only [behind, outcome] at follows
      exact Or.inr ⟨invalid, absent, _, follows, rfl, rfl, rfl, rfl, ⟨_, rfl, errors⟩,
        trace_of_invalid ran outcome⟩

end Generate

end GenWalk
