import GenWalk.Proofs.Traversal.Place
import GenWalk.Proofs.Traversal.Snapshot
import Mathlib.Data.List.Nodup

/-!
The courses that a traversal can take: the files it visits and what ends it, when each question is
answered by one of a set of snapshots. Nothing is said of the order of the snapshots, so that the
tree may change in any way while the traversal is under way. The main statements: the files of a
course come in strict order (`Course.ordered`), and a course that is not cut short holds every place
that the snapshots agree about (`Course.mem_of_agreed`).
-/

namespace GenWalk

inductive Course (views : Snapshot → Prop) : Itinerary → List Path → Option Interruption → Prop where
  | done : Course views .done [] none
  | giveUp {fault : Fault} : Course views (.giveUp fault) [] (some (.refused fault))
  | ask {question : Question} {next : question.Answer → Itinerary} {view : Snapshot}
      {answer : question.Answer} {files : List Path} {ending : Option Interruption}
      (seen : views view) (answered : view.answer question = .ok answer)
      (rest : Course views (next answer) files ending) :
      Course views (.ask question next) files ending
  | refused {question : Question} {next : question.Answer → Itinerary} {view : Snapshot}
      {fault : Fault} (seen : views view) (answered : view.answer question = .error fault) :
      Course views (.ask question next) [] (some (.refused fault))
  | note {message : Text} {next : Itinerary} {files : List Path} {ending : Option Interruption}
      (rest : Course views next files ending) : Course views (.note message next) files ending
  | visit {path : Path} {next : Itinerary} {files : List Path} {ending : Option Interruption}
      (rest : Course views next files ending) :
      Course views (.visit path next) (path :: files) ending
  | stopped {path : Path} {next : Itinerary} {interruption : Interruption} :
      Course views (.visit path next) [path] (some interruption)

namespace Course

variable {views : Snapshot → Prop} {files : List Path} {ending : Option Interruption}

theorem mono {more : Snapshot → Prop} (included : ∀ view, views view → more view)
    {itinerary : Itinerary} (course : Course views itinerary files ending) :
    Course more itinerary files ending := by
  induction course with
  | done => exact .done
  | giveUp => exact .giveUp
  | ask seen answered _ ih => exact .ask (included _ seen) answered ih
  | refused seen answered => exact .refused (included _ seen) answered
  | note _ ih => exact .note ih
  | visit _ ih => exact .visit ih
  | stopped => exact .stopped

theorem of_andThen {first last : Itinerary} (course : Course views (first.andThen last) files ending) :
    (ending ≠ none ∧ Course views first files ending) ∨
      ∃ before after, files = before ++ after ∧ Course views first before none ∧
        Course views last after ending := by
  induction first generalizing files with
  | done => exact Or.inr ⟨[], files, rfl, .done, course⟩
  | giveUp fault =>
    cases course with
    | giveUp => exact Or.inl ⟨by simp, .giveUp⟩
  | ask question next ih =>
    cases course with
    | ask seen answered rest =>
      rcases ih _ rest with ⟨cut, part⟩ | ⟨before, after, split, part, later⟩
      · exact Or.inl ⟨cut, .ask seen answered part⟩
      · exact Or.inr ⟨before, after, split, .ask seen answered part, later⟩
    | refused seen answered => exact Or.inl ⟨by simp, .refused seen answered⟩
  | note message next ih =>
    cases course with
    | note rest =>
      rcases ih rest with ⟨cut, part⟩ | ⟨before, after, split, part, later⟩
      · exact Or.inl ⟨cut, .note part⟩
      · exact Or.inr ⟨before, after, split, .note part, later⟩
  | visit path next ih =>
    cases course with
    | visit rest =>
      rcases ih rest with ⟨cut, part⟩ | ⟨before, after, rfl, part, later⟩
      · exact Or.inl ⟨cut, .visit part⟩
      · exact Or.inr ⟨path :: before, after, rfl, .visit part, later⟩
    | stopped => exact Or.inl ⟨by simp, .stopped⟩

end Course

def Ordered (root : Path) (files : List Path) : Prop :=
  ∃ places : List (List Text), files = places.map root.descend ∧ places.Pairwise Precedes

namespace Ordered

theorem nil (root : Path) : Ordered root [] := ⟨[], rfl, List.Pairwise.nil⟩

theorem self (root : Path) : Ordered root [root] := ⟨[[]], by simp, List.pairwise_singleton _ _⟩

theorem nodup {root : Path} {files : List Path} (ordered : Ordered root files) : files.Nodup := by
  obtain ⟨places, rfl, increasing⟩ := ordered
  have distinct : places.Nodup := increasing.imp Precedes.ne
  exact distinct.map root.descend_injective

end Ordered

def OrderedUnder (directory : Path) (names : List Text) (files : List Path) : Prop :=
  ∃ places : List (List Text), files = places.map directory.descend ∧ places.Pairwise Precedes ∧
    ∀ place ∈ places, ∃ name ∈ names, ∃ lower, place = name :: lower

theorem Ordered.under {directory : Path} {name : Text} {files : List Path}
    (ordered : Ordered (directory.child name) files) (rest : List Text) :
    OrderedUnder directory (name :: rest) files := by
  obtain ⟨places, rfl, increasing⟩ := ordered
  refine ⟨places.map (name :: ·), ?_, ?_, ?_⟩
  · rw [List.map_map]
    exact List.map_congr_left fun place _ => directory.descend_child name place
  · rw [List.pairwise_map]
    exact increasing.imp (Precedes.cons name)
  · intro place member
    obtain ⟨lower, _, rfl⟩ := List.mem_map.1 member
    exact ⟨name, List.mem_cons_self, lower, rfl⟩

theorem OrderedUnder.append {directory : Path} {name : Text} {rest : List Text}
    {before after : List Path} (ordered : Ordered (directory.child name) before)
    (later : OrderedUnder directory rest after)
    (smaller : ∀ other ∈ rest, name.codePoints < other.codePoints) :
    OrderedUnder directory (name :: rest) (before ++ after) := by
  obtain ⟨places, rfl, increasing⟩ := ordered
  obtain ⟨others, rfl, increasing', heads⟩ := later
  refine ⟨places.map (name :: ·) ++ others, ?_, ?_, ?_⟩
  · rw [List.map_append, List.map_map]
    congr 1
    exact List.map_congr_left fun place _ => directory.descend_child name place
  · rw [List.pairwise_append, List.pairwise_map]
    refine ⟨increasing.imp (Precedes.cons name), increasing', ?_⟩
    intro first member second member'
    obtain ⟨lower, _, rfl⟩ := List.mem_map.1 member
    obtain ⟨other, among, lower', rfl⟩ := heads second member'
    exact Precedes.of_head lower lower' (smaller other among)
  · intro place member
    rcases List.mem_append.1 member with inFirst | inRest
    · obtain ⟨lower, _, rfl⟩ := List.mem_map.1 inFirst
      exact ⟨name, List.mem_cons_self, lower, rfl⟩
    · obtain ⟨other, among, lower, rfl⟩ := heads place inRest
      exact ⟨other, List.mem_cons_of_mem name among, lower, rfl⟩

theorem OrderedUnder.ordered {directory : Path} {names : List Text} {files : List Path}
    (ordered : OrderedUnder directory names files) : Ordered directory files := by
  obtain ⟨places, same, increasing, _⟩ := ordered
  exact ⟨places, same, increasing⟩

def Snapshot.ListsOnce (view : Snapshot) : Prop :=
  ∀ directory names, view.names directory = .ok names → (names.map Text.codePoints).Nodup

namespace Course

variable {views : Snapshot → Prop} {files : List Path} {ending : Option Interruption}

theorem each_ordered {directory : Path} {entry : Text → Itinerary} {names : List Text}
    (strict : names.Pairwise fun first second => first.codePoints < second.codePoints)
    (inside : ∀ name files ending, Course views (entry name) files ending →
      Ordered (directory.child name) files)
    (course : Course views (Itinerary.each entry names) files ending) :
    OrderedUnder directory names files := by
  induction names generalizing files with
  | nil =>
    cases course with
    | done => exact ⟨[], rfl, List.Pairwise.nil, by simp⟩
  | cons name rest ih =>
    obtain ⟨smaller, strict⟩ := List.pairwise_cons.1 strict
    rcases course.of_andThen with ⟨_, part⟩ | ⟨before, after, rfl, part, later⟩
    · exact (inside name files ending part).under rest
    · exact OrderedUnder.append (inside name before none part) (ih strict later) smaller

theorem leaf_files {path : Path} {kind : EntryKind}
    (course : Course views (Itinerary.leaf path kind) files ending) : files = [] ∨ files = [path] := by
  cases kind with
  | link =>
    cases course with
    | refused => exact Or.inl rfl
    | @ask _ _ _ isDirectory _ _ _ _ rest =>
      cases isDirectory with
      | true => cases rest; exact Or.inl rfl
      | false =>
        cases rest with
        | visit rest => cases rest; exact Or.inr rfl
        | stopped => exact Or.inr rfl
  | directory | file | device =>
    cases course with
    | visit rest => cases rest; exact Or.inr rfl
    | stopped => exact Or.inr rfl

theorem leaf_ordered {path : Path} {kind : EntryKind}
    (course : Course views (Itinerary.leaf path kind) files ending) : Ordered path files := by
  rcases leaf_files course with rfl | rfl
  · exact Ordered.nil path
  · exact Ordered.self path

theorem entry_ordered {prefixes : List Text} {enter : Path → Itinerary} {path : Path}
    (inside : ∀ files ending, Course views (enter path) files ending → Ordered path files)
    (course : Course views (Itinerary.entry prefixes enter path) files ending) :
    Ordered path files := by
  cases course with
  | refused => exact Ordered.nil path
  | @ask _ _ _ kind _ _ _ _ rest =>
    cases kind with
    | directory =>
      simp only at rest
      split at rest
      next => cases rest with | note rest => cases rest; exact Ordered.nil path
      next => exact inside files ending rest
    | link => exact leaf_ordered rest
    | file => exact leaf_ordered rest
    | device => exact leaf_ordered rest

theorem within_ordered (once : ∀ view, views view → view.ListsOnce) {prefixes : List Text}
    {depth : Nat} {directory : Path}
    (course : Course views (Itinerary.within prefixes depth directory) files ending) :
    Ordered directory files := by
  induction depth generalizing directory files ending with
  | zero => cases course; exact Ordered.nil directory
  | succ depth ih =>
    cases course with
    | refused => exact Ordered.nil directory
    | ask seen answered rest =>
      have strict := Text.strict_sorted (once _ seen directory _ answered)
      exact (each_ordered strict (fun name _ _ part => entry_ordered (fun _ _ => ih) part) rest).ordered

/-- The files of a traversal come in strict order, whatever happens to the tree meanwhile. -/
theorem ordered (once : ∀ view, views view → view.ListsOnce) {prefixes : List Text} {root : Path}
    (course : Course views (Itinerary.ofRoot prefixes root) files ending) : Ordered root files := by
  cases course with
  | refused => exact Ordered.nil root
  | @ask _ _ _ kind _ _ _ _ rest =>
    cases kind with
    | directory => exact within_ordered once rest
    | link =>
      cases rest with
      | refused => exact Ordered.nil root
      | @ask _ _ _ isDirectory _ _ _ _ rest =>
        cases isDirectory with
        | true => cases rest with | note rest => cases rest; exact Ordered.nil root
        | false =>
          cases rest with
          | visit rest => cases rest; exact Ordered.self root
          | stopped => exact Ordered.self root
    | file | device =>
      cases rest with
      | visit rest => cases rest; exact Ordered.self root
      | stopped => exact Ordered.self root

end Course

def Snapshot.Real (view : Snapshot) (root : Path) (place : List Text) : Prop :=
  ∀ upper name lower, place = upper ++ name :: lower →
    view.kind (root.descend upper) = .ok .directory

/-- The snapshots agree that a traversal can get to the place and finds something to visit there.
They need not agree about what it is. -/
structure Agreed (views : Snapshot → Prop) (prefixes : List Text) (root : Path)
    (place : List Text) : Prop where
  real : ∀ view, views view → view.Real root place
  listed : ∀ view, views view → ∀ upper name lower, place = upper ++ name :: lower →
    ∀ names, view.names (root.descend upper) = .ok names → name ∈ names
  unskipped : Unskipped prefixes place
  present : ∀ view, views view →
    ∃ kind, view.kind (root.descend place) = .ok kind ∧ kind ≠ .directory
  leaf : ∀ view later, views view → views later → view.kind (root.descend place) = .ok .link →
    later.target (root.descend place) ≠ .ok .directory

theorem Snapshot.Real.tail {view : Snapshot} {root : Path} {name : Text} {lower : List Text}
    (real : view.Real root (name :: lower)) : view.Real (root.child name) lower := by
  intro upper next rest split
  rw [Path.descend_child]
  exact real (name :: upper) next rest (by rw [split]; rfl)

theorem Snapshot.Real.head {view : Snapshot} {root : Path} {name : Text} {lower : List Text}
    (real : view.Real root (name :: lower)) : view.kind root = .ok .directory := by
  simpa using real [] name lower rfl

theorem Agreed.tail {views : Snapshot → Prop} {prefixes : List Text} {root : Path} {name : Text}
    {lower : List Text} (agreed : Agreed views prefixes root (name :: lower)) :
    Agreed views prefixes (root.child name) lower where
  real view seen := (agreed.real view seen).tail
  listed view seen upper next rest split names answered := by
    rw [Path.descend_child] at answered
    exact agreed.listed view seen (name :: upper) next rest (by rw [split]; rfl) names answered
  unskipped := agreed.unskipped.tail
  present := by simpa only [Path.descend_child] using agreed.present
  leaf := by simpa only [Path.descend_child] using agreed.leaf

namespace Course

variable {views : Snapshot → Prop} {files : List Path}

theorem mem_each {entry : Text → Itinerary} {names : List Text} {name : Text} {path : Path}
    (listed : name ∈ names)
    (inside : ∀ files, Course views (entry name) files none → path ∈ files)
    (course : Course views (Itinerary.each entry names) files none) : path ∈ files := by
  induction names generalizing files with
  | nil => simp at listed
  | cons first rest ih =>
    rcases course.of_andThen with ⟨cut, _⟩ | ⟨before, after, rfl, part, later⟩
    · exact absurd rfl cut
    · rcases List.mem_cons.1 listed with rfl | among
      · exact List.mem_append_left after (inside before part)
      · exact List.mem_append_right before (ih among later)

theorem mem_leaf {path : Path} {kind : EntryKind}
    (stays : kind = .link → ∀ view, views view → view.target path ≠ .ok .directory)
    (course : Course views (Itinerary.leaf path kind) files none) : path ∈ files := by
  cases kind with
  | link =>
    cases course with
    | @ask _ _ view isDirectory _ _ seen answered rest =>
      cases isDirectory with
      | true => exact absurd ((view.isDirectory_eq_true path).1 answered) (stays rfl view seen)
      | false => cases rest with | visit rest => exact List.mem_cons_self
  | directory | file | device => cases course with | visit rest => exact List.mem_cons_self

theorem mem_entry {prefixes : List Text} {enter : Path → Itinerary} {directory : Path} {name : Text}
    {lower : List Text} (agreed : Agreed views prefixes directory (name :: lower))
    (inside : lower ≠ [] → ∀ files, Course views (enter (directory.child name)) files none →
      directory.descend (name :: lower) ∈ files)
    (course : Course views (Itinerary.entry prefixes enter (directory.child name)) files none) :
    directory.descend (name :: lower) ∈ files := by
  cases course with
  | @ask _ _ view kind _ _ seen answered rest =>
    have asked : view.kind (directory.child name) = .ok kind := answered
    by_cases deeper : lower = []
    · subst deeper
      have here : directory.descend [name] = directory.child name := by
        rw [← Path.descend_child, Path.descend_nil]
      have leaf := agreed.leaf view
      obtain ⟨other, found, plain⟩ := agreed.present view seen
      rw [here] at leaf found ⊢
      obtain rfl : kind = other := Except.ok.inj (asked.symm.trans found)
      have visited : Course views (Itinerary.leaf (directory.child name) kind) files none := by
        cases kind with
        | directory => exact absurd rfl plain
        | link | file | device => exact rest
      exact mem_leaf (fun isLink later seenLater =>
        leaf later seen seenLater (isLink ▸ asked)) visited
    · obtain ⟨next, rest', split⟩ := List.exists_cons_of_ne_nil deeper
      have isReal := (split ▸ (agreed.real view seen).tail).head
      obtain rfl : kind = .directory := Except.ok.inj (asked.symm.trans isReal)
      have entered : Visit.of prefixes (directory.child name) ≠ .skip := by
        rw [ne_eq, visit_child]
        exact agreed.unskipped.head deeper
      simp only at rest
      split at rest
      next skipped => exact absurd skipped entered
      next => exact inside deeper files rest

theorem mem_within {prefixes : List Text} {depth : Nat} {directory : Path} {name : Text}
    {lower : List Text} (agreed : Agreed views prefixes directory (name :: lower))
    (course : Course views (Itinerary.within prefixes depth directory) files none) :
    directory.descend (name :: lower) ∈ files := by
  induction depth generalizing directory name lower files with
  | zero => cases course
  | succ depth ih =>
    cases course with
    | @ask _ _ view names _ _ seen answered rest =>
      have asked : view.names (directory.descend []) = .ok names := by
        rw [Path.descend_nil]
        exact answered
      have listed : name ∈ Text.sorted names :=
        (Text.mem_sorted name names).2 (agreed.listed view seen [] name lower rfl names asked)
      refine mem_each listed (fun _ part => mem_entry agreed (fun deeper _ inner => ?_) part) rest
      obtain ⟨next, rest', rfl⟩ := List.exists_cons_of_ne_nil deeper
      rw [← Path.descend_child]
      exact ih agreed.tail inner

/-- A traversal that is not cut short visits every place that the snapshots agree about. -/
theorem mem_of_agreed {prefixes : List Text} {root : Path} {place : List Text}
    (agreed : Agreed views prefixes root place)
    (course : Course views (Itinerary.ofRoot prefixes root) files none) :
    root.descend place ∈ files := by
  cases course with
  | @ask _ _ view kind _ _ seen answered rest =>
    have asked : view.kind root = .ok kind := answered
    cases place with
    | cons name lower =>
      obtain rfl : kind = .directory := Except.ok.inj (asked.symm.trans (agreed.real view seen).head)
      exact mem_within agreed rest
    | nil =>
      obtain ⟨other, found, plain⟩ := agreed.present view seen
      have leaf := agreed.leaf view
      rw [Path.descend_nil] at found leaf ⊢
      obtain rfl : kind = other := Except.ok.inj (asked.symm.trans found)
      cases kind with
      | directory => exact absurd rfl plain
      | link =>
        cases rest with
        | @ask _ _ later isDirectory _ _ seenLater answered rest =>
          cases isDirectory with
          | true =>
            exact absurd ((later.isDirectory_eq_true root).1 answered) (leaf later seen seenLater asked)
          | false => cases rest with | visit rest => exact List.mem_cons_self
      | file | device => cases rest with | visit rest => exact List.mem_cons_self

end Course

end GenWalk
