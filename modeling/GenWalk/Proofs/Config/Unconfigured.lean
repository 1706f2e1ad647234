import GenWalk.Machine.Basic
import GenWalk.Proofs.Config.Agreement
import GenWalk.Proofs.Config.Searching
import GenWalk.Proofs.Machine.Writing
import GenWalk.Proofs.Walk.Balance

/-!
Runs in trees without a configuration file. If the search for one gets its answers, such a run is
the walk with the usual settings; if not, there is no result (`Generate.run_unconfigured`).
-/

namespace GenWalk

variable {World : Type} {host : Host World} {real : Path → Except Fault Path}
  {target : Path → Except Fault EntryKind} {worlds : World → Prop}

namespace Config

/-- The search is told where the start is, and of every directory it comes to whether the file is in
it. -/
def Searchable (real : Path → Except Fault Path) (target : Path → Except Fault EntryKind)
    (start : Path) : Prop :=
  ∃ resolved, real start = .ok resolved ∧
    ∀ directory ∈ ancestry searchLimit resolved, ∀ fault, toldIn target directory ≠ .error fault

def Absent (target : Path → Except Fault EntryKind) : Prop :=
  ∀ directory : Path, target (directory.child fileName) ≠ .ok .file

theorem Absent.toldIn (absent : Absent target) (directory : Path) :
    toldIn target directory ≠ .ok true :=
  fun told => absent directory (toldOf_eq_true.1 told)

theorem Absent.find (absent : Absent target) (still : host.StillForSearch real target worlds)
    (start : Path) {world : World} (inside : worlds world) :
    (Searchable real target start ∧ ∃ after, worlds after ∧
        find host start world = .ok none after) ∨
      (¬Searchable real target start ∧
        ∃ fault after, find host start world = .error fault after) := by
  obtain ⟨after, stays, found⟩ := find_constant still start world inside
  cases resolving : real start with
  | error fault =>
    rw [resolving] at found
    refine Or.inr ⟨?_, fault, after, found⟩
    rintro ⟨resolved, same, _⟩
    cases resolving.symm.trans same
  | ok resolved =>
    rw [resolving, Except.bind] at found
    rcases nearest_cases target (ancestry searchLimit resolved) with
      ⟨nothing, without⟩ | ⟨before, directory, behind, split, _, ⟨told, _⟩ | ⟨fault, told, refused⟩⟩
    · rw [nothing] at found
      refine Or.inl ⟨⟨resolved, resolving, fun directory member fault told => ?_⟩, after, stays,
        found⟩
      cases (without directory member).symm.trans told
    · exact absurd told (absent.toldIn directory)
    · rw [refused] at found
      refine Or.inr ⟨?_, fault, after, found⟩
      rintro ⟨other, same, answered⟩
      obtain rfl : resolved = other := Except.ok.inj (resolving.symm.trans same)
      exact answered directory (by simp [split]) fault told

end Config

def Interruption.FromSystem (interruption : Interruption) : Prop :=
  ∀ fault, interruption = .refused fault → fault.isSystem

theorem Host.Nameable.keeps (nameable : host.Nameable) :
    host.Keeps Text.Carried (fun _ : World × Books => True)
      (fun interruption _ => interruption.FromSystem) where
  answer question carried state _ := by
    cases asked : host.answer question state.1 with
    | ok answer after => exact ⟨nameable.tells asked, trivial⟩
    | error fault after =>
      intro other same
      cases same
      exact nameable.answer carried asked
  note _ _ _ := trivial
  gaveUp fault _ system _ other same := by
    cases same
    exact system

namespace Walk

theorem visit_fromSystem (nameable : host.Nameable) (adapter : Adapter World)
    (request : WalkRequest) {path : Path} (carried : path.Holds Text.Carried) :
    Journey.Keeps (fun _ => True) (fun interruption _ => interruption.FromSystem)
      (visit host adapter request path) := by
  rintro ⟨world, books⟩ _
  rcases visit_cases host adapter request path world books with
    ⟨fault, after, refused, visited⟩ | ⟨content, after, _, visited⟩
  · rw [visited]
    intro other same
    cases same
    exact nameable.content carried refused
  · rcases visited with visited | visited | ⟨command, _, _, visited⟩
    · rw [visited]
      nofun
    · rw [visited]
      trivial
    · let context := contextOf command path.toText request.root
        (request.base.getD (host.environment after))
      rcases got : receiptIn adapter request.dryRun context (host.note (foundRecord context) after)
        with ⟨made, later⟩
      rw [visited, perform_eq got]
      cases made.isFailed with
      | true => exact nofun
      | false => trivial

/-- As for every result of a walk, there has to be room for the calls of the traversal, see
`Traversal.depthLimit`. -/
theorem run_answers (nameable : host.Nameable) (adapter : Adapter World) (request : WalkRequest)
    (carried : request.root.Carried) (world : World) :
    ∃ result after, run host adapter request world = .ok result after := by
  have kept := Traversal.run_keeps nameable.keeps
    (fun path => visit_fromSystem nameable adapter request)
    request.settings.skipPrefixes (Path.holds_ofText carried) (world, {}) trivial
  obtain ⟨after, _, ran⟩ := run_of_traversal rfl fun fault ended => by
    cases traversed : Traversal.run host request.settings.skipPrefixes (visit host adapter request)
        (Path.ofText request.root) (world, {}) with
    | ok value state =>
      rw [traversed] at ended
      cases ended
    | error interruption state =>
      rw [traversed] at kept ended
      exact kept fault (Option.some.inj ended)
  exact ⟨_, after, ran⟩

end Walk

namespace Generate

theorem run_of_nothing_found (adapter : Adapter World) {request : GenerateRequest}
    (unnamed : request.config = none) {world after : World}
    (found : Config.find host (Path.ofText request.directory) world = .ok none after) :
    run host adapter request world =
      behind host adapter request { path? := none, outcome := .ok .usual } after := by
  refine run_of_checked ?_
  simp only [unnamed, ConfigCheck.run, Config.choose, bind, EStateM.bind, Config.Loading.ask, found]
  rfl

theorem run_of_search_refused (adapter : Adapter World) {request : GenerateRequest}
    (unnamed : request.config = none) {world after : World} {fault : Fault}
    (refused : Config.find host (Path.ofText request.directory) world = .error fault after) :
    run host adapter request world = .error (.refused fault) after := by
  refine run_of_failed ?_
  simp only [unnamed, ConfigCheck.run, Config.choose, bind, EStateM.bind, Config.Loading.ask,
    refused]

/-- Where there is no configuration file, a run whose search gets its answers is the walk with the
usual settings, with its error as text. It has a result unless no call can carry the name of its
directory, or there is no room for the calls of its traversal (`Traversal.depthLimit`). A run whose
search is refused has none. -/
theorem run_unconfigured (nameable : host.Nameable)
    (still : host.StillForSearch real target worlds) (absent : Config.Absent target)
    (adapter : Adapter World) (request : GenerateRequest) (unnamed : request.config = none)
    (world : World) (inside : worlds world) :
    let start := Path.ofText request.directory
    let walkRequest : WalkRequest :=
      { root := request.directory, settings := .usual, dryRun := request.dryRun }
    (Config.Searchable real target start → ∃ started, worlds started ∧
        match Walk.run host adapter walkRequest started with
        | .ok walk later => ∃ result,
            run host adapter request world =
              .ok result (host.note (report request.directory walk) later) ∧
            result.configPath? = none ∧ result.walk? = some walk ∧
            result.error? = walk.error.map Interruption.message
        | .error fault later =>
            ¬request.directory.Carried ∧
              run host adapter request world = .error (.refused fault) later) ∧
      (¬Config.Searchable real target start →
        ∃ fault after, run host adapter request world = .error (.refused fault) after) := by
  intro start walkRequest
  rcases absent.find still start inside with
    ⟨searchable, started, stays, found⟩ | ⟨unsearchable, fault, after, refused⟩
  · refine ⟨fun _ => ⟨started, stays, ?_⟩, fun unsearchable => absurd searchable unsearchable⟩
    have ran := run_of_nothing_found adapter unnamed found
    simp only [behind] at ran
    cases walked : Walk.run host adapter walkRequest started with
    | ok walk later =>
      simp only [walkRequest] at walked
      simp only [walked] at ran
      exact ⟨_, ran, rfl, rfl, rfl⟩
    | error fault later =>
      simp only [walkRequest] at walked
      simp only [walked] at ran
      refine ⟨fun carried => ?_, ran⟩
      obtain ⟨result, after, answered⟩ :=
        Walk.run_answers nameable adapter walkRequest carried started
      cases walked.symm.trans answered
  · exact ⟨fun searchable => absurd searchable unsearchable,
      fun _ => ⟨fault, after, run_of_search_refused adapter unnamed refused⟩⟩

def clearingTarget (path : Path) : Except Fault EntryKind :=
  .error (.system .notFound (some path.toText))

theorem clearing_still :
    Walk.clearingHost.StillForSearch .ok clearingTarget fun _ => True where
  resolve path := Query.constant_pure path _
  target _ world _ := ⟨world, trivial, rfl⟩

theorem missing_unconfigured :
    let request : GenerateRequest := { directory := "missing" }
    Walk.clearingHost.Nameable ∧
      Walk.clearingHost.StillForSearch .ok clearingTarget (fun _ => True) ∧
      Config.Absent clearingTarget ∧ request.config = none ∧
      Config.Searchable .ok clearingTarget (Path.ofText request.directory) ∧
      ∃ result after, run Walk.clearingHost Walk.orchardAdapter request {} = .ok result after ∧
        result.configPath? = none ∧
        result.error? = some (Fault.message (.system .notFound (some "missing"))) := by
  intro request
  have absent : Config.Absent clearingTarget := fun _ => nofun
  have searchable : Config.Searchable .ok clearingTarget (Path.ofText request.directory) :=
    ⟨_, rfl, fun _ _ _ => nofun⟩
  refine ⟨Walk.clearing_nameable, clearing_still, absent, rfl, searchable, ?_⟩
  obtain ⟨started, _, told⟩ := (run_unconfigured Walk.clearing_nameable clearing_still absent
    Walk.orchardAdapter request rfl {} trivial).1 searchable
  have walked : Walk.run Walk.clearingHost Walk.orchardAdapter { root := "missing" } started =
      .ok (Walk.resultOf { root := "missing" } {}
        (some (.refused (.system .notFound (some "missing"))))) started := by
    rfl
  simp only [request, walked] at told
  obtain ⟨result, ran, path, _, error⟩ := told
  exact ⟨result, _, ran, path, error⟩

def looped : Machine where
  disk := ⟨[([("loop" : Text)], .link "loop")]⟩

theorem looped_absent : Config.Absent fun path => looped.kind true path.toText := by
  have fileless (location : Location) (mode : Nat) (content : FileContent) :
      looped.disk.entry? location ≠ some (.file mode content) := by
    simp only [Disk.entry?, looped, Disk.lookup_entry, List.lookup_nil]
    grind
  intro directory found
  simp only [Machine.kind, Machine.findEntry, Except.map] at found
  split at found
  next => cases found
  next place looked =>
    have here := Lookup.findEntry_faithful looked
    cases entry : place.2 with
    | file mode content =>
      rw [entry] at here
      exact fileless _ _ _ here
    | directory mode =>
      rw [entry] at found
      cases found
    | link target =>
      rw [entry] at found
      cases found
    | device =>
      rw [entry] at found
      cases found

set_option maxRecDepth 2000 in
/-- A walk from the link has a result, and a run there has none. -/
theorem loop_escapes :
    Config.Absent (fun path => looped.kind true path.toText) ∧ Text.Carried "loop" ∧
      ∀ adapter : Adapter Machine,
        (∃ walk, Walk.run Machine.host adapter { root := "loop" } looped = .ok walk looped ∧
          walk.error = some (.refused (.system .linkLoop (some "loop")))) ∧
        run Machine.host adapter { directory := "loop" } looped =
          .error (.refused (.cyclicPath "/loop")) looped := by
  refine ⟨looped_absent, by decide, fun adapter => ⟨?_, by cbv⟩⟩
  have walked : Walk.run Machine.host adapter { root := "loop" } looped =
      .ok (Walk.resultOf { root := "loop" } {} (some (.refused (.system .linkLoop (some "loop")))))
        looped := by
    cbv
  exact ⟨_, walked, rfl⟩

end Generate

end GenWalk
