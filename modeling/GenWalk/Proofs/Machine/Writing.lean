import GenWalk.Machine.Basic
import GenWalk.Proofs.Machine.Lookup

/-!
What writing to a file does to a disk: the file at one place is changed, and every other place keeps
what it has. The main statements are `Machine.entry?_alterFile` and `Machine.openForWriting_ok`.
-/

namespace GenWalk

namespace Disk

theorem lookup_entry (place : Location × Entry) (rest : List (Location × Entry))
    (other : Location) :
    (place :: rest).lookup other = if other = place.1 then some place.2 else rest.lookup other := by
  rw [List.lookup_cons]
  by_cases same : other = place.1
  · rw [if_pos same, same, beq_self_eq_true]
  · rw [if_neg same, beq_eq_false_iff_ne.2 same]

theorem lookup_assign (location other : Location) (entry : Entry)
    (entries : List (Location × Entry)) :
    (assign location entry entries).lookup other =
      if other = location then some entry else entries.lookup other := by
  induction entries with
  | nil => rw [assign, lookup_entry]
  | cons head rest ih =>
    unfold assign
    split
    next same => rw [lookup_entry, lookup_entry, same]; split <;> rfl
    next different =>
      rw [lookup_entry, lookup_entry, ih]
      by_cases new : other = location
      · have absent : other ≠ head.1 := fun same => different (same.symm.trans new)
        rw [if_neg absent, if_pos new, if_pos new]
      · rw [if_neg new, if_neg new]

@[simp] theorem entry?_insert (disk : Disk) (location other : Location) (entry : Entry) :
    Disk.entry? (disk.insert location entry) other =
      if other = location then some entry else disk.entry? other := by
  unfold insert entry?
  rw [lookup_assign]
  by_cases same : other = location
  · rw [if_pos same, if_pos same]
  · rw [if_neg same, if_neg same]

end Disk

def Entry.altered (change : Bytes → Bytes) : Entry → Entry
  | .file mode content => .file mode (.bytes (change (Machine.contentOf (.file mode content))))
  | other => other

namespace Machine

variable {machine opened : Machine} {path : Text} {location : Location}

theorem entry?_alterFile (machine : Machine) (location other : Location)
    (change : Bytes → Bytes) :
    (machine.alterFile location change).disk.entry? other =
      if other = location then (machine.disk.entry? location).map (Entry.altered change)
      else machine.disk.entry? other := by
  unfold alterFile
  split
  next mode content found =>
    simp only [putEntry, Disk.entry?_insert, found, Option.map_some, Entry.altered]
  next noFile =>
    split
    next same =>
      subst same
      cases found : machine.disk.entry? other with
      | none => rfl
      | some entry =>
        cases entry with
        | file mode content => exact absurd found (noFile mode content)
        | directory mode => rfl
        | link target => rfl
        | device => rfl
    next => rfl

theorem alterFile_eq (machine : Machine) (location : Location) (change : Bytes → Bytes) :
    machine.alterFile location change =
      { machine with disk := (machine.alterFile location change).disk } := by
  unfold alterFile
  split
  next => rfl
  next => rfl

/-- The file that is opened is the one that the path leads to, and is made where there is none. All
other places are left alone. -/
theorem openForWriting_ok (done : machine.openForWriting path = .ok (location, opened)) :
    (∃ found, Lookup.find machine.disk machine.viewer true path = .ok found ∧
      found.location = location) ∧
    (∃ entry, opened.disk.entry? location = some entry ∧ entry.isDirectory = false) ∧
    (∀ other, other ≠ location → opened.disk.entry? other = machine.disk.entry? other) ∧
    opened = { machine with disk := opened.disk } := by
  simp only [openForWriting, bind, Except.bind, pure, Except.pure] at done
  split at done
  next => cases done
  next found looked =>
    have faithful := Lookup.find_faithful looked
    split at done
    next entry present =>
      split at done
      next => cases done
      next noDirectory =>
        split at done
        next => cases done
        next =>
          cases done
          refine ⟨⟨found, looked, rfl⟩, ⟨entry, ?_, ?_⟩, fun _ _ => rfl, rfl⟩
          · exact faithful.symm.trans present
          · exact eq_false_of_ne_true noDirectory
    next absent =>
      split at done
      next => cases done
      next =>
        split at done
        next => cases done
        next =>
          cases done
          refine ⟨⟨found, looked, rfl⟩, ⟨.file Entry.usualFileMode (.bytes []), ?_, rfl⟩,
            fun other elsewhere => ?_, rfl⟩
          · simp only [putEntry, Disk.entry?_insert, if_true]
          · simp only [putEntry, Disk.entry?_insert, if_neg elsewhere]

end Machine

end GenWalk
