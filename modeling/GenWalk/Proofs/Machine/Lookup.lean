import GenWalk.Machine.Basic
import GenWalk.Proofs.Text.Carried
import GenWalk.Proofs.Traversal.Snapshot

/-!
What looking a path up answers: whatever place a path leads to, what is found there is what the disk
has there (`Lookup.find_faithful`), and a path that calls can carry is refused with a number or not
at all (`Lookup.isSystem_of_find_refused`).
-/

namespace GenWalk

namespace Lookup

variable {disk : Disk} {viewer : Viewer} {follow : Bool}

/-- What is found at a place is what the disk has there. -/
def Found.Faithful (disk : Disk) (found : Found) : Prop :=
  found.entry? = disk.entry? found.location

/-- One name leads to a place, to a link, or on to the rest of the names. -/
theorem advance_cases {here : Location} {name : Text} {rest : List Text} {stretch : Stretch}
    (advanced : advance disk viewer follow here (name :: rest) = .ok stretch) :
    (name = dot ∧ advance disk viewer follow here rest = .ok stretch) ∨
      (name = twoDots ∧ advance disk viewer follow here.dropLast rest = .ok stretch) ∨
      name ≠ dot ∧
        ((rest = [] ∧ stretch = .arrived ⟨here ++ [name], disk.entry? (here ++ [name])⟩) ∨
          (∃ target, disk.entry? (here ++ [name]) = some (.link target) ∧
            stretch = .atLink here target rest) ∨
          advance disk viewer follow (here ++ [name]) rest = .ok stretch) := by
  simp only [advance, bind, Except.bind] at advanced
  split at advanced
  next => cases advanced
  next => grind

theorem advance_faithful {here : Location} {pending : List Text} {found : Found}
    (arrived : advance disk viewer follow here pending = .ok (.arrived found)) :
    found.Faithful disk := by
  induction pending generalizing here with
  | nil =>
    cases arrived
    rfl
  | cons name rest ih =>
    rcases advance_cases arrived with
      ⟨_, onward⟩ | ⟨_, onward⟩ | ⟨_, ⟨_, same⟩ | ⟨_, _, same⟩ | onward⟩
    · exact ih onward
    · exact ih onward
    · cases same
      rfl
    · cases same
    · exact ih onward

theorem walkNames_faithful {links : Nat} {here : Location} {pending : List Text} {found : Found}
    (walked : walkNames disk viewer follow links here pending = .ok found) :
    found.Faithful disk := by
  induction links generalizing here pending with
  | zero =>
    unfold walkNames at walked
    simp only [bind, Except.bind] at walked
    split at walked
    next => cases walked
    next advanced =>
      split at walked
      next =>
        cases walked
        exact advance_faithful advanced
      next => cases walked
  | succ links ih =>
    unfold walkNames at walked
    simp only [bind, Except.bind] at walked
    split at walked
    next => cases walked
    next advanced =>
      split at walked
      next =>
        cases walked
        exact advance_faithful advanced
      next => exact ih walked

theorem find_of_carried {path : Text} (carried : path.Carried) :
    find disk viewer follow path =
      if path.isEmpty then .error (.system .notFound (some path))
      else if pathLimit ≤ (Utf8.encode path).length then .error (.system .nameTooLong (some path))
      else match walkNames disk viewer follow linkLimit
          (if isAbsolute path then [] else viewer.directory) (Path.literal path).parts with
        | .ok found => .ok found
        | .error error => .error (.system error (some path)) := by
  unfold find
  split
  next refused =>
    rw [(Fault.ofName?_eq_none_iff path).2 carried] at refused
    cases refused
  next => rfl

theorem carried_of_find {path : Text} {found : Found}
    (looked : find disk viewer follow path = .ok found) : path.Carried := by
  unfold find at looked
  split at looked
  next => cases looked
  next nameable => exact (Fault.ofName?_eq_none_iff path).1 nameable

theorem walked_of_find {path : Text} {found : Found}
    (looked : find disk viewer follow path = .ok found) :
    walkNames disk viewer follow linkLimit (if isAbsolute path then [] else viewer.directory)
      (Path.literal path).parts = .ok found := by
  rw [find_of_carried (carried_of_find looked)] at looked
  split at looked
  next => cases looked
  next =>
    split at looked
    next => cases looked
    next =>
      split at looked
      next walked =>
        cases looked
        exact walked
      next => cases looked

theorem find_of_findEntry {path : Text} {location : Location} {entry : Entry}
    (looked : findEntry disk viewer follow path = .ok (location, entry)) :
    find disk viewer follow path = .ok ⟨location, some entry⟩ := by
  simp only [findEntry, bind, Except.bind] at looked
  split at looked
  next => cases looked
  next found told =>
    obtain ⟨place, entry?⟩ := found
    cases entry? with
    | none => cases looked
    | some entry =>
      cases looked
      exact told

theorem find_faithful {path : Text} {found : Found}
    (looked : find disk viewer follow path = .ok found) : found.Faithful disk :=
  walkNames_faithful (walked_of_find looked)

theorem findEntry_faithful {path : Text} {location : Location} {entry : Entry}
    (looked : findEntry disk viewer follow path = .ok (location, entry)) :
    disk.entry? location = some entry :=
  (find_faithful (find_of_findEntry looked)).symm

theorem isSystem_of_find_refused {path : Text} {fault : Fault} (carried : path.Carried)
    (refused : find disk viewer follow path = .error fault) : fault.isSystem := by
  rw [find_of_carried carried] at refused
  split at refused
  next => cases refused; rfl
  next =>
    split at refused
    next => cases refused; rfl
    next =>
      split at refused
      next => cases refused
      next => cases refused; rfl

theorem isSystem_of_findEntry_refused {path : Text} {fault : Fault}
    (carried : path.Carried)
    (refused : findEntry disk viewer follow path = .error fault) : fault.isSystem := by
  simp only [findEntry, bind, Except.bind] at refused
  split at refused
  next looked =>
    cases refused
    exact isSystem_of_find_refused carried looked
  next =>
    split at refused
    next => cases refused
    next => cases refused; rfl

end Lookup

theorem Machine.answer_look (answer : Machine → Except Fault α) (machine : Machine) :
    (look answer).answer machine = answer machine := by
  rw [Query.answer, look]
  cases answer machine with
  | ok value => rfl
  | error fault => rfl

end GenWalk
