import GenWalk.Text.Basic

/-!
Environment variables: names with their values, in the order in which the names came in. Setting a
name that is there keeps its place. The main statement `get?_set` says what a look-up finds after a
name has been set.
-/

namespace GenWalk

structure Environment where
  entries : List (Text × Text) := []
  distinct : (entries.map Prod.fst).Nodup := by decide
deriving DecidableEq

namespace Environment

def empty : Environment := {}

instance : Inhabited Environment := ⟨empty⟩

def assign (name value : Text) : List (Text × Text) → List (Text × Text)
  | [] => [(name, value)]
  | entry :: rest =>
    if entry.1 = name then (name, value) :: rest else entry :: assign name value rest

theorem mem_names_assign (name value other : Text) (entries : List (Text × Text)) :
    other ∈ (assign name value entries).map Prod.fst ↔
      other = name ∨ other ∈ entries.map Prod.fst := by
  induction entries with
  | nil => simp [assign]
  | cons entry rest hypothesis =>
    unfold assign
    split
    next same => simp [same]
    next => rw [List.map_cons, List.mem_cons, hypothesis, List.map_cons, List.mem_cons]; grind

theorem nodup_assign (name value : Text) {entries : List (Text × Text)}
    (distinct : (entries.map Prod.fst).Nodup) :
    ((assign name value entries).map Prod.fst).Nodup := by
  induction entries with
  | nil => simp [assign]
  | cons entry rest hypothesis =>
    rw [List.map_cons, List.nodup_cons] at distinct
    unfold assign
    split
    next same => simpa [same] using distinct
    next different =>
      rw [List.map_cons, List.nodup_cons, mem_names_assign]
      exact ⟨by grind, hypothesis distinct.2⟩

def set (environment : Environment) (name value : Text) : Environment where
  entries := assign name value environment.entries
  distinct := nodup_assign name value environment.distinct

def setAll (environment : Environment) (values : List (Text × Text)) : Environment :=
  values.foldl (fun current value => current.set value.1 value.2) environment

def ofList (values : List (Text × Text)) : Environment := empty.setAll values

def get? (environment : Environment) (name : Text) : Option Text :=
  environment.entries.lookup name

theorem lookup_entry (entry : Text × Text) (rest : List (Text × Text)) (other : Text) :
    (entry :: rest).lookup other = if other = entry.1 then some entry.2 else rest.lookup other := by
  rw [List.lookup_cons]
  by_cases same : other = entry.1
  · rw [if_pos same, same, beq_self_eq_true]
  · rw [if_neg same, beq_eq_false_iff_ne.2 same]

theorem lookup_assign (name value other : Text) (entries : List (Text × Text)) :
    (assign name value entries).lookup other =
      if other = name then some value else entries.lookup other := by
  induction entries with
  | nil => rw [assign, lookup_entry]
  | cons entry rest hypothesis =>
    unfold assign
    split
    next same => rw [lookup_entry, lookup_entry, same]; split <;> rfl
    next different =>
      rw [lookup_entry, lookup_entry, hypothesis]
      by_cases new : other = name
      · have absent : other ≠ entry.1 := fun same => different (same.symm.trans new)
        rw [if_neg absent, if_pos new, if_pos new]
      · rw [if_neg new, if_neg new]

@[simp] theorem get?_set (environment : Environment) (name value other : Text) :
    (environment.set name value).get? other =
      if other = name then some value else environment.get? other :=
  lookup_assign name value other environment.entries

@[simp] theorem get?_empty (name : Text) : empty.get? name = none := rfl

end Environment

end GenWalk
