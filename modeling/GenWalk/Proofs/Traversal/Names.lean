import GenWalk.Proofs.Traversal.Itinerary
import GenWalk.Proofs.Traversal.Place

/-!
The names that come up in a traversal. Where all names in listings are of a kind, a traversal asks
about paths with such names only, if its root is one (`Itinerary.holds_ofRoot`).
-/

namespace GenWalk

theorem Text.mem_of_mem_splitOn {separator glyph : Glyph} {text part : Text}
    (among : part ∈ splitOn separator text) (member : glyph ∈ part) : glyph ∈ text := by
  induction text generalizing part with
  | nil =>
    obtain rfl := List.mem_singleton.1 among
    exact member
  | cons first rest ih =>
    unfold splitOn at among
    split at among
    next =>
      rcases List.mem_cons.1 among with rfl | later
      · cases member
      · exact List.mem_cons_of_mem first (ih later member)
    next =>
      split at among
      next =>
        obtain rfl := List.mem_singleton.1 among
        obtain rfl := List.mem_singleton.1 member
        exact List.mem_cons_self
      next head parts found =>
        rcases List.mem_cons.1 among with rfl | later
        · rcases List.mem_cons.1 member with rfl | inside
          · exact List.mem_cons_self
          · exact List.mem_cons_of_mem first (ih (found ▸ List.mem_cons_self) inside)
        · exact List.mem_cons_of_mem first (ih (found ▸ List.mem_cons_of_mem head later) member)

def Path.Holds (named : Text → Prop) (path : Path) : Prop := ∀ part ∈ path.parts, named part

theorem Path.Holds.child {named : Text → Prop} {directory : Path} {name : Text}
    (above : directory.Holds named) (last : named name) : (directory.child name).Holds named := by
  intro part member
  rcases List.mem_append.1 member with upper | same
  · exact above part upper
  · obtain rfl := List.mem_singleton.1 same
    exact last

theorem Path.holds_ofText {fits : Glyph → Prop} {text : Text} (all : ∀ glyph ∈ text, fits glyph) :
    (Path.ofText text).Holds fun part => ∀ glyph ∈ part, fits glyph := by
  intro part member glyph among
  exact all glyph (Text.mem_of_mem_splitOn (List.mem_of_mem_filter member) among)

namespace Question

def path : Question → Path
  | kind path => path
  | isDirectory path => path
  | names directory => directory

/-- The names in the answer, if it is a listing, are of the kind. -/
def Tells (named : Text → Prop) : (question : Question) → question.Answer → Prop
  | names _, (listing : List Text) => ∀ name ∈ listing, named name
  | kind _, _ => True
  | isDirectory _, _ => True

end Question

namespace Itinerary

/-- All names that come up are of the kind as long as those in listings are, and the itinerary
itself gives up in the words of the system only. -/
def Holds (named : Text → Prop) : Itinerary → Prop
  | done => True
  | giveUp fault => fault.isSystem
  | ask question next => question.path.Holds named ∧
      ∀ answer, question.Tells named answer → (next answer).Holds named
  | note _ next => next.Holds named
  | visit path next => path.Holds named ∧ next.Holds named

variable {named : Text → Prop}

theorem Holds.andThen {first last : Itinerary} (begins : first.Holds named)
    (goesOn : last.Holds named) : (first.andThen last).Holds named := by
  induction first with
  | done => exact goesOn
  | giveUp fault => exact begins
  | ask question next ih =>
    exact ⟨begins.1, fun answer tells => ih answer (begins.2 answer tells)⟩
  | note message next ih => exact ih begins
  | visit path next ih => exact ⟨begins.1, ih begins.2⟩

theorem holds_each {entry : Text → Itinerary} {names : List Text}
    (entries : ∀ name ∈ names, (entry name).Holds named) : (each entry names).Holds named := by
  induction names with
  | nil => trivial
  | cons name rest ih =>
    exact (entries name List.mem_cons_self).andThen
      (ih fun other member => entries other (List.mem_cons_of_mem name member))

theorem holds_leaf {path : Path} (holds : path.Holds named) (kind : EntryKind) :
    (leaf path kind).Holds named := by
  cases kind with
  | link =>
    refine ⟨holds, fun (isDirectory : Bool) _ => ?_⟩
    cases isDirectory with
    | true => trivial
    | false => exact ⟨holds, trivial⟩
  | directory | file | device => exact ⟨holds, trivial⟩

theorem holds_within (prefixes : List Text) (depth : Nat) {directory : Path}
    (holds : directory.Holds named) : (within prefixes depth directory).Holds named := by
  induction depth generalizing directory with
  | zero => rfl
  | succ depth ih =>
    refine ⟨holds, fun (names : List Text) tells => holds_each fun name among => ?_⟩
    have child := holds.child (tells name ((Text.mem_sorted name names).1 among))
    refine ⟨child, fun (kind : EntryKind) _ => ?_⟩
    cases kind with
    | directory =>
      simp only
      split
      next => trivial
      next => exact ih child
    | link => exact holds_leaf child .link
    | file => exact holds_leaf child .file
    | device => exact holds_leaf child .device

theorem holds_ofRoot (prefixes : List Text) {root : Path} (holds : root.Holds named) :
    (ofRoot prefixes root).Holds named := by
  refine ⟨holds, fun (kind : EntryKind) _ => ?_⟩
  cases kind with
  | directory => exact holds_within prefixes _ holds
  | link =>
    refine ⟨holds, fun (isDirectory : Bool) _ => ?_⟩
    cases isDirectory with
    | true => trivial
    | false => exact ⟨holds, trivial⟩
  | file | device => exact ⟨holds, trivial⟩

end Itinerary

end GenWalk
