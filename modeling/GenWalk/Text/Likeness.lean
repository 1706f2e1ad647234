import GenWalk.Text.Basic

/-!
How alike two texts are. The longest run of glyphs that both have is taken out of them, and the
same is done with what stands before it and with what stands behind it; what the runs come to,
against the length of both texts, is their likeness.
-/

namespace GenWalk.Text

def commonStart : Text → Text → Nat
  | first :: others, second :: rest => if first = second then commonStart others rest + 1 else 0
  | _, _ => 0

structure CommonRun where
  start : Nat
  otherStart : Nat
  length : Nat
deriving DecidableEq

/-- The longest common run: of several the one that starts first in the first text, and of those the
one that starts first in the second. -/
def longestCommonRun? (first second : Text) : Option CommonRun :=
  let runs := (List.range first.length).flatMap fun start =>
    (List.range second.length).map fun otherStart =>
      ⟨start, otherStart, commonStart (first.drop start) (second.drop otherStart)⟩
  (runs.maxOn? CommonRun.length).filter (0 < ·.length)

def commonWithin : (depth : Nat) → Text → Text → Nat
  | 0, _, _ => 0
  | depth + 1, first, second => match longestCommonRun? first second with
    | none => 0
    | some run =>
      commonWithin depth (first.take run.start) (second.take run.otherStart) + run.length +
        commonWithin depth (first.drop (run.start + run.length))
          (second.drop (run.otherStart + run.length))

def common (first second : Text) : Nat := commonWithin first.length first second

/-- Two texts are close if three fifths of all their glyphs, at least, are in common runs. -/
def isClose (word candidate : Text) : Bool :=
  3 * (word.length + candidate.length) ≤ 10 * common candidate word

def notLessLike (word first second : Text) : Bool :=
  let weight (candidate other : Text) : Nat := common candidate word * (word.length + other.length)
  weight second first < weight first second ||
    (weight second first == weight first second && notAfter second first)

def closest (word : Text) (candidates : List Text) : List Text :=
  sorted (((candidates.filter (isClose word)).mergeSort (notLessLike word)).take 3)

end GenWalk.Text
