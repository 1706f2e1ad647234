/-!
Reading a list from left to right, where one item may cover several elements. The main statement
`scan_cons` says that after an item the reading goes on behind the elements that the item covers.
-/

namespace GenWalk

/-- The scan of a list whose first `covered` elements belong to an item that is already read. -/
def scanAfter (step : α → List α → β × Nat) : Nat → List α → List β
  | _, [] => []
  | covered + 1, _ :: rest => scanAfter step covered rest
  | 0, head :: rest => (step head rest).1 :: scanAfter step (step head rest).2 rest

/-- At each place `step` sees the element there and the rest, and answers an item and how many
elements of the rest the item covers. -/
def scan (step : α → List α → β × Nat) (elements : List α) : List β := scanAfter step 0 elements

variable {step : α → List α → β × Nat}

theorem scanAfter_eq_scan_drop (covered : Nat) (elements : List α) :
    scanAfter step covered elements = scan step (elements.drop covered) := by
  induction elements generalizing covered with
  | nil => cases covered <;> rfl
  | cons head rest hypothesis =>
    cases covered with
    | zero => rfl
    | succ covered => simpa [scanAfter] using hypothesis covered

@[simp] theorem scan_nil : scan step [] = [] := rfl

theorem scan_cons (head : α) (rest : List α) :
    scan step (head :: rest) = (step head rest).1 :: scan step (rest.drop (step head rest).2) := by
  rw [← scanAfter_eq_scan_drop]
  rfl

end GenWalk
