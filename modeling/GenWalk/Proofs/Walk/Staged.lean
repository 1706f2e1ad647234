import GenWalk.Adapter.Mock
import GenWalk.Machine.Basic
import GenWalk.Proofs.Traversal.Nameable
import GenWalk.Proofs.Walk.Conclusion
import GenWalk.Proofs.Walk.Deed

/-!
A walk does what it would do if all files were listed first and then gone through in order. It is
watched, so that nothing is done behind the first failure. The main statement is `run_staged`.
-/

namespace GenWalk.Walk

variable {World : Type} {host : Host World} {adapter : Adapter World} {view : Snapshot}
  {worlds : World → Prop}

/-- Listed files that were gone through in order: each that was reached has got its due, and either
all were reached and none failed, or the last one that was reached is the first that failed. -/
structure Staged (host : Host World) (adapter : Adapter World) (request : WalkRequest)
    (view : Snapshot) (worlds : World → Prop) (files : List Path) (ending : Option Interruption)
    (steps : List (Path × Deed)) (error : Option Interruption) : Prop where
  reached : steps.map Prod.fst <+: files
  due : ∀ step ∈ steps, Due host adapter request view worlds step.1 step.2
  stop : (steps.map Prod.fst = files ∧ error = ending ∧
      ∀ step ∈ steps, step.2.failure? request.settings.keyword step.1 = none) ∨
    ∃ before path deed interruption, steps = before ++ [(path, deed)] ∧
      (∀ step ∈ before, step.2.failure? request.settings.keyword step.1 = none) ∧
      deed.failure? request.settings.keyword path = some interruption ∧ error = some interruption

variable {request : WalkRequest} {files : List Path} {ending : Option Interruption}

theorem Staged.nil : Staged host adapter request view worlds [] ending [] ending where
  reached := List.prefix_rfl
  due _ member := absurd member List.not_mem_nil
  stop := Or.inl ⟨rfl, rfl, fun _ member => absurd member List.not_mem_nil⟩

theorem Staged.single {path : Path} {deed : Deed} {interruption : Interruption}
    (due : Due host adapter request view worlds path deed)
    (failed : deed.failure? request.settings.keyword path = some interruption) :
    Staged host adapter request view worlds (path :: files) ending [(path, deed)]
      (some interruption) where
  reached := ⟨files, rfl⟩
  due step member := by
    obtain rfl := List.mem_singleton.1 member
    exact due
  stop := Or.inr ⟨[], path, deed, interruption, rfl, fun _ member => absurd member List.not_mem_nil,
    failed, rfl⟩

theorem Staged.cons {path : Path} {deed : Deed} {steps : List (Path × Deed)}
    {error : Option Interruption} (due : Due host adapter request view worlds path deed)
    (fine : deed.failure? request.settings.keyword path = none)
    (staged : Staged host adapter request view worlds files ending steps error) :
    Staged host adapter request view worlds (path :: files) ending ((path, deed) :: steps) error where
  reached := List.cons_prefix_cons.2 ⟨rfl, staged.reached⟩
  due step member := by
    rcases List.mem_cons.1 member with rfl | later
    · exact due
    · exact staged.due step later
  stop := by
    rcases staged.stop with ⟨whole, same, none⟩ |
      ⟨before, last, final, interruption, rfl, none, failed, same⟩
    · refine Or.inl ⟨by rw [List.map_cons, whole], same, fun step member => ?_⟩
      rcases List.mem_cons.1 member with rfl | later
      · exact fine
      · exact none step later
    · refine Or.inr ⟨(path, deed) :: before, last, final, interruption, rfl, fun step member => ?_,
        failed, same⟩
      rcases List.mem_cons.1 member with rfl | later
      · exact fine
      · exact none step later

theorem Grown.cons {dryRun : Bool} {first : Path × Deed} {steps : List (Path × Deed)}
    {events : List Event} {books : Books} {middle final : (World × List Event) × Books}
    (begun : Grown adapter dryRun worlds [first] events books middle)
    (rest : Grown adapter dryRun worlds steps middle.1.2 middle.2 final) :
    Grown adapter dryRun worlds (first :: steps) events books final where
  inside := rest.inside
  seen := by
    rw [rest.seen, begun.seen]
    simp [List.append_assoc]
  directives := by
    rw [rest.directives, begun.directives, List.append_assoc, ← List.filterMap_append,
      List.singleton_append]
  receipts := by
    rw [rest.receipts, begun.receipts, List.append_assoc, ← List.filterMap_append,
      List.singleton_append]
  count := by
    rw [rest.count, begun.count, Nat.add_assoc, ← List.countP_append, ← List.filterMap_append,
      List.singleton_append]

theorem Staged.isSystem {steps : List (Path × Deed)} {error : Option Interruption} {fault : Fault}
    (staged : Staged host adapter request view worlds files ending steps error)
    (nameable : view.Nameable) (carried : ∀ path ∈ files, path.Holds Text.Carried)
    (ended : ∀ fault, ending = some (.refused fault) → fault.isSystem)
    (refused : error = some (.refused fault)) : fault.isSystem := by
  rcases staged.stop with ⟨_, same, _⟩ | ⟨before, path, deed, interruption, rfl, _, failed, same⟩
  · exact ended fault (same.symm.trans refused)
  · obtain rfl : interruption = .refused fault := Option.some.inj (same.symm.trans refused)
    obtain rfl := Deed.eq_unreadable failed
    have inside : path ∈ files := staged.reached.subset (by simp)
    exact nameable.content path fault (carried path inside) (staged.due (path, .unreadable fault) (by simp))

/-- A walk that the system itself ends, or that nothing ends, has a result. Only the log may have
changed the world since the last file. -/
theorem run_of_traversal {world : World}
    {outcome : EStateM.Result Interruption (World × Books) Unit}
    (traversed : Traversal.run host request.settings.skipPrefixes (visit host adapter request)
      (Path.ofText request.root) (world, {}) = outcome)
    (system : ∀ fault, Journey.interruption? outcome = some (.refused fault) → fault.isSystem) :
    ∃ after, (after = (Journey.atEnd outcome).1 ∨
        ∃ record, after = host.note record (Journey.atEnd outcome).1) ∧
      run host adapter request world = .ok
        { root := request.root
          dryRun := request.dryRun
          books := (Journey.atEnd outcome).2
          error := Journey.interruption? outcome } after := by
  obtain ⟨answered, last⟩ := run_concluded traversed
  rw [concluded_eq_ok system] at answered
  exact ⟨_, last, Query.eq_ok_of_answer answered⟩

def orchard : Path := { parts := ["r"] }

def orchardFiles : List (Path × Text) :=
  [(orchard.child "a", "text\n"), (orchard.child "b", "#go x\n"), (orchard.child "c", "#go y\n")]

def orchardView : Snapshot where
  kind path :=
    if path = orchard then .ok .directory
    else match orchardFiles.lookup path with
      | some _ => .ok .file
      | none => .error (.system .notFound (some path.toText))
  target path := .error (.system .notFound (some path.toText))
  names directory :=
    if directory = orchard then .ok ["c", "a", "b"]
    else .error (.system .notDirectory (some directory.toText))
  content path := match orchardFiles.lookup path with
    | some text => .ok (Utf8.encode text)
    | none => .error (.system .notFound (some path.toText))

def orchardHost : Host Mock := Host.ofSnapshots fun _ => orchardView

def orchardAdapter : Adapter Mock := Mock.adapter "mock" id fun mock _ => mock

def idle : Adapter Machine := Mock.adapter "mock" (fun _ => {}) fun _ machine => machine

end GenWalk.Walk
