import GenWalk.Proofs.Traversal.Tour

/-!
What a traversal of a tree that stands still yields: the entries that are no directories and that
can be got to through real directories whose names are not left out, each once and in the order of
places. The main statement is `files_eq_eligible`.
-/

namespace GenWalk

namespace Snapshot

variable (view : Snapshot) (prefixes : List Text) (root : Path) (place : List Text)

def Listed : Prop :=
  ∀ upper name lower, place = upper ++ name :: lower →
    ∃ names, view.names (root.descend upper) = .ok names ∧ name ∈ names

def IsLeaf (path : Path) : Prop :=
  ∃ kind, view.kind path = .ok kind ∧ kind ≠ .directory ∧
    (kind = .link → view.target path ≠ .ok .directory)

/-- The place is an entry at the root or below it, and real directories that are not left out lead
there. -/
structure Reached : Prop where
  real : view.Real root place
  listed : view.Listed root place
  unskipped : Unskipped prefixes place

/-- The place is one that a traversal has to visit. -/
structure Eligible : Prop where
  reached : view.Reached prefixes root place
  leaf : view.IsLeaf (root.descend place)

/-- The place is a directory that a traversal has to list. -/
structure Entered : Prop where
  reached : view.Reached prefixes root place
  directory : view.kind (root.descend place) = .ok .directory
  kept : ∀ name ∈ place, ¬Skipped prefixes name

/-- Nothing that a traversal has to ask about the place is refused. -/
structure Answers : Prop where
  kind : ∃ kind, view.kind (root.descend place) = .ok kind
  names : view.Entered prefixes root place → ∃ names, view.names (root.descend place) = .ok names
  isDirectory : view.kind (root.descend place) = .ok .link →
    ∃ isDirectory, view.isDirectory (root.descend place) = .ok isDirectory

/-- What the operating system promises of a listing: its names are not empty and stand there once
each, and a directory whose path is too long has none. -/
structure Lawful : Prop where
  once : view.ListsOnce
  named : ∀ directory names, view.names directory = .ok names → [] ∉ names
  bounded : ∀ directory names, view.names directory = .ok names →
    (Utf8.encode directory.toText).length < Traversal.depthLimit

variable {view}

theorem isLeaf_of_link {path : Path} (found : view.kind path = .ok .link)
    (answered : view.isDirectory path = .ok false) : view.IsLeaf path := by
  have leads : view.target path ≠ .ok .directory := by
    rw [ne_eq, ← view.isDirectory_eq_true, answered]
    exact fun same => Bool.false_ne_true (Except.ok.inj same)
  exact ⟨.link, found, by decide, fun _ => leads⟩

end Snapshot

namespace Itinerary

variable {view : Snapshot}

theorem mem_listed_leaf {path other : Path} {kind : EntryKind} (found : view.kind path = .ok kind)
    (plain : kind ≠ .directory) (member : other ∈ (leaf path kind).listed view) :
    other = path ∧ view.IsLeaf path := by
  cases kind with
  | directory => exact absurd rfl plain
  | link =>
    simp only [leaf, listed, Snapshot.answer] at member
    split at member
    next isDirectory answered =>
      cases isDirectory with
      | true => cases member
      | false => exact ⟨List.mem_singleton.1 member, Snapshot.isLeaf_of_link found answered⟩
    next => cases member
  | file | device =>
    exact ⟨List.mem_singleton.1 member, _, found, plain, fun isLink => by cases isLink⟩

theorem ending_leaf {path : Path} {kind : EntryKind}
    (answers : kind = .link → ∃ isDirectory, view.isDirectory path = .ok isDirectory) :
    (leaf path kind).ending view = none := by
  cases kind with
  | link =>
    obtain ⟨isDirectory, answered⟩ := answers rfl
    simp only [leaf, ending, Snapshot.answer, answered]
    cases isDirectory with
    | true => rfl
    | false => rfl
  | directory | file | device => rfl

end Itinerary

namespace Snapshot

variable {view : Snapshot} {prefixes : List Text} {root : Path} {place : List Text}

theorem reached_root : view.Reached prefixes root [] where
  real upper name lower split := by simp at split
  listed upper name lower split := by simp at split
  unskipped name member := by simp at member

theorem Entered.reached_child (entered : view.Entered prefixes root place) {names : List Text}
    (listing : view.names (root.descend place) = .ok names) {name : Text} (listed : name ∈ names) :
    view.Reached prefixes root (place ++ [name]) where
  real := by
    intro upper other lower split
    rcases split_concat split with ⟨rfl, _⟩ | ⟨rest, above⟩
    · exact entered.directory
    · exact entered.reached.real upper other rest above
  listed := by
    intro upper other lower split
    rcases split_concat split with ⟨rfl, rfl⟩ | ⟨rest, above⟩
    · exact ⟨names, listing, listed⟩
    · exact entered.reached.listed upper other rest above
  unskipped := by
    intro other member
    rw [List.dropLast_concat] at member
    exact entered.kept other member

theorem Entered.child (entered : view.Entered prefixes root place) {name : Text}
    (reached : view.Reached prefixes root (place ++ [name]))
    (directory : view.kind ((root.descend place).child name) = .ok .directory)
    (kept : ¬Skipped prefixes name) : view.Entered prefixes root (place ++ [name]) where
  reached
  directory := by rw [Path.descend_concat]; exact directory
  kept := by
    intro other member
    rcases List.mem_append.1 member with above | last
    · exact entered.kept other above
    · obtain rfl := List.mem_singleton.1 last
      exact kept

theorem Reached.named (reached : view.Reached prefixes root place) (lawful : view.Lawful) :
    ∀ name ∈ place, name ≠ [] := by
  rintro name member rfl
  obtain ⟨upper, lower, split⟩ := List.append_of_mem member
  obtain ⟨names, listing, listed⟩ := reached.listed upper [] lower split
  exact lawful.named _ names listing listed

theorem Reached.shallow (reached : view.Reached prefixes root place) (lawful : view.Lawful)
    {names : List Text} (listing : view.names (root.descend place) = .ok names) :
    place.length < Traversal.depthLimit :=
  lt_of_le_of_lt (root.length_le_descend (reached.named lawful)) (lawful.bounded _ names listing)

end Snapshot

namespace Itinerary

variable {view : Snapshot} {prefixes : List Text} {root : Path} {place : List Text}

theorem eligible_of_mem_within {depth : Nat} (entered : view.Entered prefixes root place) {path : Path}
    (member : path ∈ (within prefixes depth (root.descend place)).listed view) :
    ∃ lower, path = root.descend lower ∧ view.Eligible prefixes root lower := by
  induction depth generalizing place with
  | zero => cases member
  | succ depth ih =>
    simp only [within, listed, Snapshot.answer] at member
    split at member
    next names listing =>
      obtain ⟨name, among, member⟩ := mem_listed_each member
      rw [Text.mem_sorted] at among
      have reached := entered.reached_child listing among
      simp only [entry, listed, Snapshot.answer] at member
      split at member
      next kind found =>
        have eligible : kind ≠ .directory →
            path ∈ (leaf ((root.descend place).child name) kind).listed view →
            ∃ lower, path = root.descend lower ∧ view.Eligible prefixes root lower := by
          intro plain visited
          obtain ⟨rfl, isLeaf⟩ := mem_listed_leaf found plain visited
          rw [← Path.descend_concat] at isLeaf ⊢
          exact ⟨place ++ [name], rfl, reached, isLeaf⟩
        cases kind with
        | directory =>
          simp only at member
          split at member
          next => cases member
          next enters =>
            rw [← Path.descend_concat] at member
            exact ih (entered.child reached found (not_skipped_of_enter enters)) member
        | link | file | device => exact eligible (fun same => by cases same) member
      next => cases member
    next => cases member

theorem ending_within (lawful : view.Lawful)
    (answers : ∀ place, view.Reached prefixes root place → view.Answers prefixes root place)
    {depth : Nat} (entered : view.Entered prefixes root place)
    (deep : depth + place.length = Traversal.depthLimit) :
    (within prefixes depth (root.descend place)).ending view = none := by
  obtain ⟨names, listing⟩ := (answers place entered.reached).names entered
  have shallow := entered.reached.shallow lawful listing
  induction depth generalizing place names with
  | zero => omega
  | succ depth ih =>
    simp only [within, ending, Snapshot.answer, listing]
    apply ending_each
    intro name among
    rw [Text.mem_sorted] at among
    have reached := entered.reached_child listing among
    have answer := answers _ reached
    obtain ⟨kind, found⟩ := answer.kind
    rw [Path.descend_concat] at found
    have isDirectory := answer.isDirectory
    rw [Path.descend_concat] at isDirectory
    simp only [entry, ending, Snapshot.answer, found]
    cases kind with
    | directory =>
      simp only
      split
      next => rfl
      next enters =>
        have below := entered.child reached found (not_skipped_of_enter enters)
        obtain ⟨more, listing'⟩ := answer.names below
        rw [← Path.descend_concat]
        refine ih below ?_ more listing' (below.reached.shallow lawful listing')
        simp only [List.length_append, List.length_singleton]
        omega
    | link => exact ending_leaf fun _ => isDirectory found
    | file | device => rfl

theorem ending_ofRoot (lawful : view.Lawful)
    (answers : ∀ place, view.Reached prefixes root place → view.Answers prefixes root place) :
    (ofRoot prefixes root).ending view = none := by
  have answer := answers [] Snapshot.reached_root
  have isDirectory := answer.isDirectory
  obtain ⟨kind, found⟩ := answer.kind
  rw [Path.descend_nil] at found isDirectory
  simp only [ofRoot, ending, Snapshot.answer, found]
  cases kind with
  | directory =>
    have entered : view.Entered prefixes root [] :=
      ⟨Snapshot.reached_root, by rw [Path.descend_nil]; exact found, by simp⟩
    have ends := ending_within lawful answers entered (Nat.add_zero Traversal.depthLimit)
    rw [Path.descend_nil] at ends
    exact ends
  | link =>
    obtain ⟨leads, answered⟩ := isDirectory found
    simp only [ending, Snapshot.answer, answered]
    cases leads with
    | true => rfl
    | false => rfl
  | file | device => rfl

theorem listed_ofRoot_link (found : view.kind root = .ok .link)
    (leads : view.target root = .ok .directory) : (ofRoot prefixes root).listed view = [] := by
  have answered : view.isDirectory root = .ok true := (view.isDirectory_eq_true root).2 leads
  simp [ofRoot, listed, Snapshot.answer, found, answered]

theorem eligible_of_mem_ofRoot {path : Path} (member : path ∈ (ofRoot prefixes root).listed view) :
    ∃ place, path = root.descend place ∧ view.Eligible prefixes root place := by
  simp only [ofRoot, listed, Snapshot.answer] at member
  split at member
  next kind found =>
    have atRoot : path = root → view.IsLeaf root →
        ∃ place, path = root.descend place ∧ view.Eligible prefixes root place := by
      rintro rfl isLeaf
      refine ⟨[], path.descend_nil.symm, Snapshot.reached_root, ?_⟩
      rw [Path.descend_nil]
      exact isLeaf
    cases kind with
    | directory =>
      have entered : view.Entered prefixes root [] :=
        ⟨Snapshot.reached_root, by rw [Path.descend_nil]; exact found, by simp⟩
      rw [← root.descend_nil] at member
      exact eligible_of_mem_within entered member
    | link =>
      simp only [listed, Snapshot.answer] at member
      split at member
      next isDirectory answered =>
        cases isDirectory with
        | true => cases member
        | false =>
          exact atRoot (List.mem_singleton.1 member) (Snapshot.isLeaf_of_link found answered)
      next => cases member
    | file | device =>
      refine atRoot (List.mem_singleton.1 member) ⟨_, found, ?_, fun isLink => by cases isLink⟩
      decide
  next => cases member

end Itinerary

theorem Snapshot.Eligible.agreed {view : Snapshot} {prefixes : List Text} {root : Path}
    {place : List Text} (eligible : view.Eligible prefixes root place) :
    Agreed (· = view) prefixes root place where
  real := by
    rintro _ rfl
    exact eligible.reached.real
  listed := by
    rintro _ rfl upper name lower split names listing
    obtain ⟨others, same, listed⟩ := eligible.reached.listed upper name lower split
    rw [listing] at same
    exact Except.ok.inj same ▸ listed
  unskipped := eligible.reached.unskipped
  present := by
    rintro _ rfl
    obtain ⟨kind, found, plain, _⟩ := eligible.leaf
    exact ⟨kind, found, plain⟩
  leaf := by
    rintro _ _ rfl rfl isLink
    obtain ⟨kind, found, _, leads⟩ := eligible.leaf
    exact leads (Except.ok.inj (found.symm.trans isLink))

theorem Snapshot.Eligible.eq_nil_of_leaf {view : Snapshot} {prefixes : List Text} {root : Path}
    {place : List Text} (eligible : view.Eligible prefixes root place) (isLeaf : view.IsLeaf root) :
    place = [] := by
  cases place with
  | nil => rfl
  | cons name lower =>
    obtain ⟨kind, found, plain, _⟩ := isLeaf
    have directory := eligible.reached.real.head
    exact absurd (Except.ok.inj (found.symm.trans directory)) plain

namespace Traversal

/-- In a tree that stands still and whose questions are answered, a traversal comes to its end and
yields the eligible entries, each once and in the order of places. That no limit on calls within calls
comes first is taken for granted, see `depthLimit`. -/
theorem files_eq_eligible {World : Type} {host : Host World} {view : Snapshot}
    {worlds : World → Prop} (still : host.Still view worlds) (lawful : view.Lawful)
    (prefixes : List Text) (root : Path)
    (answers : ∀ place, view.Reached prefixes root place → view.Answers prefixes root place)
    (world : World) (inside : worlds world) :
    ∃ found after, worlds after ∧ files host prefixes root world = ((found, none), after) ∧
      Ordered root found ∧ found.Nodup ∧
      (∀ path, path ∈ found ↔
        ∃ place, path = root.descend place ∧ view.Eligible prefixes root place) ∧
      (view.IsLeaf root → found = [root]) ∧
      (view.kind root = .ok .link → view.target root = .ok .directory → found = []) := by
  obtain ⟨after, stays, listed⟩ := files_eq_listed still prefixes root inside
  have ends := Itinerary.ending_ofRoot lawful answers
  have course : Course (· = view) _ _ _ := (Itinerary.ofRoot prefixes root).course_listed
  rw [ends] at listed course
  have ordered : Ordered root _ := course.ordered (by rintro _ rfl; exact lawful.once)
  have complete : ∀ place, view.Eligible prefixes root place →
      root.descend place ∈ (Itinerary.ofRoot prefixes root).listed view :=
    fun place eligible => course.mem_of_agreed eligible.agreed
  have members : ∀ path, path ∈ (Itinerary.ofRoot prefixes root).listed view ↔
      ∃ place, path = root.descend place ∧ view.Eligible prefixes root place := by
    intro path
    refine ⟨Itinerary.eligible_of_mem_ofRoot, ?_⟩
    rintro ⟨place, rfl, eligible⟩
    exact complete place eligible
  refine ⟨_, after, stays, listed, ordered, ordered.nodup, members, fun isLeaf => ?_,
    Itinerary.listed_ofRoot_link⟩
  have single : ∀ path, path ∈ (Itinerary.ofRoot prefixes root).listed view ↔ path ∈ [root] := by
    intro path
    rw [members, List.mem_singleton]
    constructor
    · rintro ⟨place, rfl, eligible⟩
      rw [eligible.eq_nil_of_leaf isLeaf, Path.descend_nil]
    · rintro rfl
      refine ⟨[], path.descend_nil.symm, Snapshot.reached_root, ?_⟩
      rw [Path.descend_nil]
      exact isLeaf
  exact List.perm_singleton.1
    ((List.perm_ext_iff_of_nodup ordered.nodup (List.nodup_singleton root)).2 single)

def grove : Path := { parts := ["r"] }

def groveEntries : List (Path × EntryKind) := [
  (grove, .directory), (grove.child ".git", .directory), (grove.child "a", .directory),
  (grove.child "a-", .file), (grove.child "lost", .link), (grove.child "loop", .link),
  ((grove.child "a").child ".b", .file)]

def groveNames : List Text := ["loop", "lost", "a-", "a", ".git"]

def groveView : Snapshot where
  kind path := match groveEntries.lookup path with
    | some kind => .ok kind
    | none => .error (.system .notFound (some path.toText))
  target path :=
    if path = grove.child "loop" then .ok .directory
    else .error (.system .notFound (some path.toText))
  names directory :=
    if directory = grove then .ok groveNames
    else if directory = grove.child "a" then .ok [".b"]
    else .error (.system .accessDenied (some directory.toText))
  content _ := .ok []

theorem names_grove {directory : Path} {names : List Text}
    (listing : groveView.names directory = .ok names) :
    (directory = grove ∧ names = groveNames) ∨
      (directory = grove.child "a" ∧ names = [Text.ofString ".b"]) := by
  simp only [groveView] at listing
  split at listing
  next here => exact Or.inl ⟨here, (Except.ok.inj listing).symm⟩
  next =>
    split at listing
    next here => exact Or.inr ⟨here, (Except.ok.inj listing).symm⟩
    next => cases listing

theorem grove_lawful : groveView.Lawful where
  once directory names listing := by
    rcases names_grove listing with ⟨_, rfl⟩ | ⟨_, rfl⟩
    · decide
    · decide
  named directory names listing := by
    rcases names_grove listing with ⟨_, rfl⟩ | ⟨_, rfl⟩
    · decide
    · decide
  bounded directory names listing := by
    rcases names_grove listing with ⟨rfl, _⟩ | ⟨rfl, _⟩
    · decide
    · decide

def grovePlaces : List (List Text) :=
  [[], ["loop"], ["lost"], ["a-"], ["a"], [".git"], ["a", ".b"]]

theorem grove_reached {place : List Text} (reached : groveView.Reached ["."] grove place) :
    place ∈ grovePlaces := by
  cases place with
  | nil => decide
  | cons name lower =>
    obtain ⟨names, listing, listed⟩ := reached.listed [] name lower rfl
    rcases names_grove listing with ⟨_, rfl⟩ | ⟨here, _⟩
    · cases lower with
      | nil =>
        have places : ∀ name ∈ groveNames, [name] ∈ grovePlaces := by decide
        exact places name listed
      | cons next rest =>
        obtain ⟨names, listing', listed'⟩ := reached.listed [name] next rest rfl
        rcases names_grove listing' with ⟨here, _⟩ | ⟨here, rfl⟩
        · exact absurd here (by simp [Path.descend, grove])
        · obtain rfl : name = "a" := by simpa [Path.descend, Path.child] using here
          obtain rfl : next = ".b" := List.mem_singleton.1 listed'
          cases rest with
          | nil => decide
          | cons last others =>
            have directory := reached.real ["a", ".b"] last others rfl
            exact absurd directory (by decide)
    · exact absurd here (by decide)

theorem grove_answers (place : List Text) (reached : groveView.Reached ["."] grove place) :
    groveView.Answers ["."] grove place := by
  have among := grove_reached reached
  have kinds : ∀ place ∈ grovePlaces,
      groveView.kind (grove.descend place) ∈ ([.directory, .file, .link] : List EntryKind).map .ok := by
    decide
  have targets : ∀ place ∈ grovePlaces,
      groveView.isDirectory (grove.descend place) ∈ [true, false].map .ok := by
    decide
  have listings : ∀ place ∈ grovePlaces, groveView.kind (grove.descend place) = .ok .directory →
      Text.ofString ".git" ∉ place →
      groveView.names (grove.descend place) ∈ [groveNames, [Text.ofString ".b"]].map .ok := by
    decide
  refine ⟨?_, fun entered => ?_, fun _ => ?_⟩
  · obtain ⟨kind, _, found⟩ := List.mem_map.1 (kinds place among)
    exact ⟨kind, found.symm⟩
  · have kept : Text.ofString ".git" ∉ place := by
      intro member
      exact entered.kept _ member ⟨Text.ofString ".", List.mem_singleton_self _, by decide⟩
    obtain ⟨names, _, found⟩ := List.mem_map.1 (listings place among entered.directory kept)
    exact ⟨names, found.symm⟩
  · obtain ⟨isDirectory, _, found⟩ := List.mem_map.1 (targets place among)
    exact ⟨isDirectory, found.symm⟩

theorem grove_files :
    let found := [(grove.child "a").child ".b", grove.child "a-", grove.child "lost"]
    groveView.Lawful ∧
      (∀ place, groveView.Reached ["."] grove place → groveView.Answers ["."] grove place) ∧
      files (Host.ofSnapshots fun _ : Unit => groveView) ["."] grove () = ((found, none), ()) ∧
      Ordered grove found ∧ ∀ path, path ∈ found ↔
        ∃ place, path = grove.descend place ∧ groveView.Eligible ["."] grove place := by
  intro found
  have still : (Host.ofSnapshots fun _ : Unit => groveView).Still groveView fun _ => True :=
    Host.still_ofSnapshots groveView
  obtain ⟨others, after, _, yielded, ordered, _, members, _⟩ :=
    files_eq_eligible still grove_lawful ["."] grove grove_answers () trivial
  have evaluated : files (Host.ofSnapshots fun _ : Unit => groveView) ["."] grove () =
      ((found, none), ()) := by
    simp only [found]
    cbv
  have same : others = found := congrArg (·.1.1) (yielded.symm.trans evaluated)
  exact ⟨grove_lawful, grove_answers, evaluated, same ▸ ordered, same ▸ members⟩

end Traversal

end GenWalk
