import GenWalk.Machine.Basic
import GenWalk.Proofs.Config.Searching
import GenWalk.Proofs.Walk.Conclusion
import Mathlib.Logic.Function.Iterate

/-!
The nearest configuration file. The directories of a search are numbered from the start upwards, and
the first in which the test for the file finds one, or is refused, settles the search. The main
statement `Config.find_nearest` says so of the answer, and also which paths are looked at.
-/

namespace GenWalk

/-- What is told of a path ends a search there: a file, or a refusal that leaves it open whether
there is one. -/
inductive Config.Settles : Except Fault EntryKind → Prop where
  | found : Settles (.ok .file)
  | refused {fault : Fault} (unsure : ¬fault.meansAbsent) : Settles (.error fault)

theorem toldOf_refused {fault : Fault} (unsure : ¬fault.meansAbsent) :
    toldOf .file (.error fault) = .error fault :=
  if_neg unsure

theorem toldOf_unsettled {told : Except Fault EntryKind} (unsettled : ¬Config.Settles told) :
    toldOf .file told = .ok false := by
  cases told with
  | ok kind =>
    have other : kind ≠ .file := by
      rintro rfl
      exact unsettled .found
    simp [toldOf, other]
  | error fault =>
    have absent : fault.meansAbsent := not_not.1 fun unsure => unsettled (.refused unsure)
    exact if_pos absent

variable {World : Type}

def Host.tracked (host : Host World) : Host (World × List Path) :=
  { host.through Prod.fst fun world whole => (world, whole.2) with
    target path := fun (world, followed) => match host.target path world with
      | .ok kind after => .ok kind (after, followed ++ [path])
      | .error fault after => .error fault (after, followed ++ [path]) }

variable {host : Host World} {real : Path → Except Fault Path}
  {target : Path → Except Fault EntryKind} {worlds : World → Prop} {world : World}

theorem Host.StillForSearch.isFile_tracked (still : host.StillForSearch real target worlds)
    (path : Path) (inside : worlds world) (followed : List Path) :
    ∃ after, worlds after ∧
      host.tracked.isFile path (world, followed) = match toldOf .file (target path) with
        | .ok isFile => .ok isFile (after, followed ++ [path])
        | .error fault => .error fault (after, followed ++ [path]) := by
  obtain ⟨after, stays, asked⟩ := still.target path world inside
  refine ⟨after, stays, ?_⟩
  simp only [Host.isFile, Host.leadsTo, Host.tracked, asked]
  grind [toldOf]

namespace Config

def above (directory : Path) (steps : Nat) : Path := Path.parent^[steps] directory

theorem ancestry_eq (directories : Nat) (directory : Path) :
    ancestry directories directory =
      (List.range (min directories (directory.parts.length + 1))).map (above directory) := by
  induction directories generalizing directory with
  | zero => simp [ancestry]
  | succ directories ih =>
    unfold ancestry
    cases parts : directory.parts with
    | nil => simp [above, List.range_succ]
    | cons part rest =>
      have shorter : directory.parent.parts.length = rest.length := by
        simp [Path.parent, parts]
      have count : min (directories + 1) (rest.length + 1 + 1) =
          min directories (rest.length + 1) + 1 := by omega
      rw [List.length_cons, count, List.range_succ_eq_map, List.map_cons, List.map_map, ih, shorter]
      rfl

/-- What a search through the directories looks at: the file in each of them, up to the one that
settles it. -/
def looked (target : Path → Except Fault EntryKind) : List Path → List Path
  | [] => []
  | directory :: rest => directory.child fileName :: match toldIn target directory with
    | .ok false => looked target rest
    | _ => []

theorem searchUp_tracked (still : host.StillForSearch real target worlds) (directories : Nat)
    (directory : Path) (inside : worlds world) (followed : List Path) :
    (searchUp host.tracked directories directory).answer (world, followed) =
        nearest target (ancestry directories directory) ∧
      (ended (searchUp host.tracked directories directory (world, followed))).2 =
        followed ++ looked target (ancestry directories directory) := by
  induction directories generalizing directory world followed with
  | zero => exact ⟨rfl, (List.append_nil followed).symm⟩
  | succ directories ih =>
    obtain ⟨after, stays, asked⟩ :=
      still.isFile_tracked (directory.child fileName) inside followed
    simp only [searchUp, ancestry, nearest, looked, toldIn, Query.answer, bind, EStateM.bind]
    rw [asked]
    cases toldOf .file (target (directory.child fileName)) with
    | error fault => exact ⟨rfl, rfl⟩
    | ok isFile =>
      cases isFile with
      | true => exact ⟨rfl, rfl⟩
      | false =>
        simp only [Except.bind, Bool.false_eq_true, if_false]
        by_cases atRoot : directory.parts.isEmpty
        · simp only [if_pos atRoot]
          exact ⟨rfl, rfl⟩
        · obtain ⟨answers, follows⟩ :=
            ih directory.parent stays (followed ++ [directory.child fileName])
          rw [List.append_assoc] at follows
          simp only [if_neg atRoot]
          exact ⟨answers, follows⟩

theorem nearest_append {before : List Path}
    (unsettled : ∀ directory ∈ before, ¬Settles (target (directory.child fileName)))
    (rest : List Path) : nearest target (before ++ rest) = nearest target rest := by
  induction before with
  | nil => rfl
  | cons directory others ih =>
    obtain ⟨here, later⟩ := List.forall_mem_cons.1 unsettled
    rw [List.cons_append, nearest, toldIn, toldOf_unsettled here]
    exact ih later

theorem looked_append {before : List Path}
    (unsettled : ∀ directory ∈ before, ¬Settles (target (directory.child fileName)))
    (rest : List Path) :
    looked target (before ++ rest) = before.map (·.child fileName) ++ looked target rest := by
  induction before with
  | nil => rfl
  | cons directory others ih =>
    obtain ⟨here, later⟩ := List.forall_mem_cons.1 unsettled
    rw [List.cons_append, looked, toldIn, toldOf_unsettled here]
    exact congrArg _ (ih later)

/-- A search from the start answers what is told, and looks at the paths in their order, and at
nothing else. -/
structure Searched (host : Host World) (start : Path) (world : World)
    (told : Except Fault (Option Path)) (paths : List Path) : Prop where
  answers : (find host start).answer world = told
  looks : (ended (find host.tracked start (world, []))).2 = paths

theorem searched (still : host.StillForSearch real target worlds) {start resolved : Path}
    (resolves : real start = .ok resolved) (inside : worlds world) :
    Searched host start world (nearest target (ancestry searchLimit resolved))
      (looked target (ancestry searchLimit resolved)) := by
  obtain ⟨after, stays, asked⟩ := still.resolve start world inside
  rw [resolves] at asked
  constructor
  · obtain ⟨last, _, found⟩ := find_constant still start world inside
    rw [resolves, Except.bind] at found
    rw [Query.answer, found]
    cases nearest target (ancestry searchLimit resolved) <;> rfl
  · have begins : host.tracked.resolve start (world, []) = .ok resolved (after, []) := by
      simp only [Host.tracked, Host.through, Query.through, asked]
    simp only [find, bind, EStateM.bind, begins]
    exact (searchUp_tracked still searchLimit resolved stays []).2

theorem exists_split_range {α : Type} (item : Nat → α) {place count : Nat}
    (inside : place < count) : ∃ behind,
      (List.range count).map item = (List.range place).map item ++ item place :: behind := by
  obtain ⟨more, rfl⟩ := Nat.exists_eq_add_of_lt inside
  rw [Nat.add_assoc, List.range_add, List.range_succ_eq_map, List.map_append, List.map_cons,
    List.map_cons]
  exact ⟨_, rfl⟩

/-- The nearest file wins: of the directories from the start up to the root, but of no more than
twenty, the first that settles the search gives its answer, and none above it is looked at. If no
directory settles it, all of them are looked at and there is no file. A directory has as many above
it as its path has parts. -/
theorem find_nearest (still : host.StillForSearch real target worlds) {start resolved : Path}
    (resolves : real start = .ok resolved) (inside : worlds world) :
    let candidate (level : Nat) : Path := (above resolved level).child fileName
    let top := min resolved.parts.length 19
    (∀ level ≤ top, (∀ nearer < level, ¬Settles (target (candidate nearer))) →
      (target (candidate level) = .ok .file →
        Searched host start world (.ok (some (candidate level)))
          ((List.range (level + 1)).map candidate)) ∧
      ∀ fault, target (candidate level) = .error fault → ¬fault.meansAbsent →
        Searched host start world (.error fault) ((List.range (level + 1)).map candidate)) ∧
    ((∀ level ≤ top, ¬Settles (target (candidate level))) →
      Searched host start world (.ok none) ((List.range (top + 1)).map candidate)) := by
  intro candidate top
  have whole := searched still resolves inside
  have directories : ancestry searchLimit resolved =
      (List.range (top + 1)).map (above resolved) := by
    have count : min searchLimit (resolved.parts.length + 1) = top + 1 := by
      simp only [searchLimit, top]
      omega
    rw [ancestry_eq, count]
  rw [directories] at whole
  have passed {count : Nat} (nearer : ∀ level < count, ¬Settles (target (candidate level))) :
      ∀ directory ∈ (List.range count).map (above resolved),
        ¬Settles (target (directory.child fileName)) := by
    intro directory member
    obtain ⟨level, low, rfl⟩ := List.mem_map.1 member
    exact nearer level (List.mem_range.1 low)
  have paths (count : Nat) : ((List.range count).map (above resolved)).map (·.child fileName) =
      (List.range count).map candidate := List.map_map
  refine ⟨fun level low nearer => ?_, fun nowhere => ?_⟩
  · obtain ⟨behind, split⟩ := exists_split_range (above resolved) (Nat.lt_succ_of_le low)
    rw [split, nearest_append (passed nearer), looked_append (passed nearer), paths, nearest,
      looked, toldIn] at whole
    rw [List.range_succ, List.map_append, List.map_singleton]
    refine ⟨fun found => ?_, fun fault told unsure => ?_⟩
    · rw [found, toldOf_eq_true.2 rfl] at whole
      exact whole
    · rw [told, toldOf_refused unsure] at whole
      exact whole
  · have all := passed fun level low => nowhere level (Nat.le_of_lt_succ low)
    rw [← List.append_nil (List.map _ _), nearest_append all, looked_append all, paths, looked,
      List.append_nil] at whole
    exact whole

end Config

theorem Machine.stillForSearch (machine : Machine) :
    Machine.host.StillForSearch (Lookup.resolve machine.disk machine.viewer)
      (fun path => machine.kind true path.toText) (· = machine) where
  resolve _ := by
    rintro _ rfl
    exact ⟨_, rfl, rfl⟩
  target _ := by
    rintro _ rfl
    exact ⟨_, rfl, rfl⟩

namespace Config

def overgrown : Machine where
  disk := ⟨[(["a"], .directory Entry.usualDirectoryMode),
    (["a", "b"], .directory Entry.usualDirectoryMode),
    (["a", "b", fileName], .directory Entry.usualDirectoryMode),
    (["a", fileName], .link "nowhere"),
    ([fileName], .link "a/f"),
    (["a", "f"], .file Entry.usualFileMode (.bytes []))]⟩

theorem overgrown_found :
    Machine.host.StillForSearch (Lookup.resolve overgrown.disk overgrown.viewer)
        (fun path => overgrown.kind true path.toText) (· = overgrown) ∧
      Lookup.resolve overgrown.disk overgrown.viewer "a/./b" = .ok "/a/b" ∧
      Searched Machine.host "a/./b" overgrown (.ok (some "/helmgen.yml"))
        ["/a/b/helmgen.yml", "/a/helmgen.yml", "/helmgen.yml"] := by
  have still := overgrown.stillForSearch
  have resolves : Lookup.resolve overgrown.disk overgrown.viewer "a/./b" = .ok "/a/b" := by cbv
  have directory : overgrown.kind true ("/a/b/helmgen.yml" : Path).toText = .ok .directory := by cbv
  have dangling : overgrown.kind true ("/a/helmgen.yml" : Path).toText =
      .error (.system .notFound (some "/a/helmgen.yml")) := by cbv
  have file : overgrown.kind true ("/helmgen.yml" : Path).toText = .ok .file := by cbv
  have nearer : ∀ level < 2, ¬Settles
      (overgrown.kind true ((above "/a/b" level).child fileName).toText) := by
    intro level low settles
    obtain rfl | rfl : level = 0 ∨ level = 1 := by omega
    · cases directory ▸ settles
    · cases dangling ▸ settles with
      | refused unsure => exact unsure rfl
  exact ⟨still, resolves, ((find_nearest still resolves rfl).1 2 (by decide) nearer).1 file⟩

def rooted : Host Unit := .ofSnapshots fun _ => {
  kind := fun path => .error (.system .notFound (some path.toText))
  target := fun path =>
    if path = "/helmgen.yml" then .ok .file else .error (.system .notFound (some path.toText))
  names := fun _ => .ok []
  content := fun _ => .ok [] }

/-- The root is the last place to be looked at from a depth of nineteen, and too far from one of
twenty. -/
example :
    (find rooted ⟨.root, List.replicate 19 "d"⟩).answer () = .ok (some "/helmgen.yml") ∧
      (find rooted ⟨.root, List.replicate 20 "d"⟩).answer () = .ok none := by
  constructor
  · rfl
  · rfl

end Config

end GenWalk
