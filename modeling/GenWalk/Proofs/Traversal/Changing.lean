import GenWalk.Proofs.Traversal.Diary

/-!
A traversal of a tree that changes. The machine may be another one after each question, and each
visit may do anything to it. The main statement `visited_strict_and_complete` says that paths are
visited in strict order, and that nothing is missed that is there all the time.
-/

namespace GenWalk

variable {World Gathered : Type}

/-- All the time, as far as a traversal could find out, something stands at the place that is no
directory and leads to none, and real directories hold it. -/
structure Stays (host : Host World) (moments : List World) (root : Path) (place : List Text) :
    Prop where
  named : ∀ name ∈ place, IsEntryName name
  real : ∀ moment ∈ moments, (host.snapshot moment).Real root place
  present : ∀ moment ∈ moments,
    ∃ kind, (host.snapshot moment).kind (root.descend place) = .ok kind ∧ kind ≠ .directory
  leaf : ∀ moment ∈ moments, (host.snapshot moment).target (root.descend place) ≠ .ok .directory

/-- What the operating system promises: a listing holds each name once, and it holds every name that
is there all the time. -/
structure ListsWhatStays (host : Host World) (moments : List World) : Prop where
  once : ∀ moment ∈ moments, (host.snapshot moment).ListsOnce
  lists : ∀ directory name, IsEntryName name →
    (∀ moment ∈ moments, ∃ kind, (host.snapshot moment).kind (directory.child name) = .ok kind) →
      ∀ moment ∈ moments, ∀ names, (host.snapshot moment).names directory = .ok names → name ∈ names

theorem Stays.way {host : Host World} {moments : List World} {root : Path} {place : List Text}
    (stays : Stays host moments root place) {upper : List Text} {name : Text} {lower : List Text}
    (split : place = upper ++ name :: lower) :
    ∀ moment ∈ moments,
      ∃ kind, (host.snapshot moment).kind ((root.descend upper).child name) = .ok kind := by
  intro moment member
  rw [← Path.descend_concat]
  cases lower with
  | nil =>
    obtain ⟨kind, found, _⟩ := stays.present moment member
    exact ⟨kind, split ▸ found⟩
  | cons next rest =>
    exact ⟨.directory, stays.real moment member (upper ++ [name]) next rest (by simp [split])⟩

theorem Stays.agreed {host : Host World} {moments : List World} {prefixes : List Text} {root : Path}
    {place : List Text} (stays : Stays host moments root place)
    (lists : ListsWhatStays host moments) (unskipped : Unskipped prefixes place) :
    Agreed (fun view => ∃ moment ∈ moments, host.snapshot moment = view) prefixes root place where
  real := by
    rintro _ ⟨moment, member, rfl⟩
    exact stays.real moment member
  listed := by
    rintro _ ⟨moment, member, rfl⟩ upper name lower split names answered
    have named : IsEntryName name := stays.named name (by simp [split])
    exact lists.lists _ name named (stays.way split) moment member names answered
  unskipped
  present := by
    rintro _ ⟨moment, member, rfl⟩
    exact stays.present moment member
  leaf := by
    rintro _ _ _ ⟨moment, member, rfl⟩ _
    exact stays.leaf moment member

namespace Traversal

/-- Whatever happens to the tree meanwhile, paths are visited in strict order, and a traversal that
nothing cuts short visits once whatever stays at its place. -/
theorem visited_strict_and_complete (host : Host World) (visit : Path → Journey World Gathered Unit)
    (prefixes : List Text) (root : Path) (start : World × Gathered) :
    let outcome := keepingDiary host prefixes visit root start
    let diary := Diary.atEnd outcome
    Diary.forgotten outcome = run host prefixes visit root start ∧
      (files host prefixes root start.1).1.1 =
        (Diary.atEnd (keepingDiary host prefixes collect root (start.1, []))).visited.reverse ∧
      (ListsWhatStays host diary.asked →
        Ordered root diary.visited.reverse ∧ diary.visited.Nodup ∧
          (Journey.interruption? outcome = none →
            ∀ place, Unskipped prefixes place → Stays host diary.asked root place →
              diary.visited.count (root.descend place) = 1)) := by
  intro outcome diary
  refine ⟨forgotten_keepingDiary host visit prefixes root start,
    files_eq_visited host prefixes root start.1, fun lists => ?_⟩
  obtain ⟨moments, found, atEnd, course⟩ :=
    (Itinerary.ofRoot prefixes root).play_kept host visit start.1 {} start.2
  rw [← Itinerary.run_eq_play] at atEnd course
  have asked : diary.asked = moments :=
    (congrArg Diary.asked atEnd).trans (List.append_nil moments)
  have visited : diary.visited = found.reverse :=
    (congrArg Diary.visited atEnd).trans (List.append_nil found.reverse)
  have ordered : Ordered root diary.visited.reverse := by
    rw [visited, List.reverse_reverse]
    refine course.ordered ?_
    rintro _ ⟨moment, member, rfl⟩
    exact lists.once moment (asked ▸ member)
  have distinct : diary.visited.Nodup := List.nodup_reverse.1 ordered.nodup
  refine ⟨ordered, distinct, fun finished place unskipped stays => ?_⟩
  have whole : Course _ (Itinerary.ofRoot prefixes root) found none := finished ▸ course
  have agreed := stays.agreed lists unskipped
  rw [asked] at agreed
  have member : root.descend place ∈ found := whole.mem_of_agreed agreed
  exact List.count_eq_one_of_mem distinct (by rw [visited]; exact List.mem_reverse.2 member)

def budding : Path := (⟨.relative, []⟩ : Path).child "r"

def buddingView (changed : Bool) : Snapshot :=
  let kind (path : Path) : Except Fault EntryKind :=
    if path = budding then .ok .directory
    else if path = budding.child "a" then .ok .file
    else if path = budding.child "b" then .ok (if changed then .directory else .file)
    else if changed ∧ path = (budding.child "b").child "c" then .ok .file
    else .error (.system .notFound (some path.toText))
  { kind
    target := kind
    names := fun directory =>
      if directory = budding then .ok ["b", "a"]
      else if changed ∧ directory = budding.child "b" then .ok ["c"]
      else .error (.system .notDirectory (some directory.toText))
    content := fun _ => .ok [] }

theorem budding_lists (moments : List Bool) :
    ListsWhatStays (Host.ofSnapshots buddingView) moments where
  once moment _ directory names answered := by
    rw [Host.snapshot_ofSnapshots] at answered
    simp only [buddingView] at answered
    split at answered
    · obtain rfl := Except.ok.inj answered
      decide
    · split at answered
      · obtain rfl := Except.ok.inj answered
        decide
      · cases answered
  lists directory name _ present moment member names answered := by
    obtain ⟨kind, found⟩ := present moment member
    rw [Host.snapshot_ofSnapshots] at answered found
    simp only [buddingView] at answered found
    split at answered
    next here =>
      obtain rfl := Except.ok.inj answered
      subst here
      simp only [Path.child_ne_self, Path.child_inj, Path.child_ne_self.symm, true_and, false_and,
        and_false, if_false] at found
      split at found
      next same => simp [same]
      next =>
        split at found
        next same => simp [same]
        next => cases found
    next =>
      split at answered
      next later =>
        obtain rfl := Except.ok.inj answered
        obtain ⟨rfl, rfl⟩ := later
        have above : budding.child "b" ≠ ⟨.relative, []⟩ := by decide
        have notRoot : (budding.child "b").child name ≠ budding := by
          rw [budding, ne_eq, Path.child_inj]
          exact fun same => above same.1
        simp only [notRoot, Path.child_inj, Path.child_ne_self, true_and, false_and, if_false] at found
        split at found
        next same => simp [same]
        next => cases found
      next => cases answered

theorem budding_stays (moments : List Bool) :
    Stays (Host.ofSnapshots buddingView) moments budding ["a"] where
  named := by
    intro name member
    obtain rfl := List.mem_singleton.1 member
    exact ⟨by decide, by decide, by decide, by decide⟩
  real := by
    intro moment _ upper name lower split
    obtain rfl : upper = [] := by
      have lengths := congrArg List.length split
      simp only [List.length_append, List.length_cons, List.length_nil] at lengths
      exact List.length_eq_zero_iff.1 (by omega)
    rw [Host.snapshot_ofSnapshots, Path.descend_nil]
    cases moment <;> rfl
  present moment _ := by
    rw [Host.snapshot_ofSnapshots]
    cases moment <;> exact ⟨.file, rfl, by decide⟩
  leaf moment _ := by
    rw [Host.snapshot_ofSnapshots]
    cases moment <;> decide

theorem budding_visited :
    let change : Path → Journey Bool Unit Unit := fun _ => Journey.changeWorld fun _ => true
    let outcome := keepingDiary (Host.ofSnapshots buddingView) ["_"] change budding (false, ())
    let diary := Diary.atEnd outcome
    ListsWhatStays (Host.ofSnapshots buddingView) diary.asked ∧
      Journey.interruption? outcome = none ∧ Unskipped ["_"] ["a"] ∧
      Stays (Host.ofSnapshots buddingView) diary.asked budding ["a"] ∧
      diary.visited.count (budding.descend ["a"]) = 1 := by
  intro change outcome diary
  have lists : ListsWhatStays (Host.ofSnapshots buddingView) diary.asked := budding_lists diary.asked
  have stays := budding_stays diary.asked
  have finished : Journey.interruption? outcome = none := by
    simp only [outcome, change]
    cbv
  have unskipped : Unskipped ["_"] ["a"] := by simp [Unskipped]
  obtain ⟨_, _, complete⟩ :=
    visited_strict_and_complete (Host.ofSnapshots buddingView) change ["_"] budding (false, ())
  exact ⟨lists, finished, unskipped, stays, (complete lists).2.2 finished ["a"] unskipped stays⟩

end Traversal

end GenWalk
