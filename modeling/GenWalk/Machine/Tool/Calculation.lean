import GenWalk.Machine.Tool.Expression
import GenWalk.Machine.Tool.Basic

/-!
Calculations with words: numbers, comparisons and parts of texts, one operand or mark in each word.
-/

namespace GenWalk.Machine.Tool

namespace Calculation

inductive Problem where
  | malformed
  | notInteger
  | dividedByZero
deriving DecidableEq

abbrev Reading (α : Type) := StateT (List Text) (Except Problem) α

def fail (problem : Problem) : Reading α := fun _ => .error problem

def isNull (value : Text) : Bool :=
  value.isEmpty || match value with
    | .char '-' :: digits => !digits.isEmpty && digits.all (· == .char '0')
    | digits => digits.all (· == .char '0')

def integer? (value : Text) : Option Int :=
  match value with
  | .char '-' :: digits => (Numeral.decimal? digits).map fun number => -Int.ofNat number
  | digits => (Numeral.decimal? digits).map Int.ofNat

def integer (value : Text) : Reading Int :=
  match integer? value with
  | some number => return number
  | none => fail .notInteger

def ofBool (holds : Bool) : Text := if holds then "1" else "0"

def fit (text pattern : Text) : Reading Text := do
  match Expression.read? { isExtended := false } pattern with
  | none => fail .malformed
  | some expression =>
    let place? := Expression.fitAt? expression { line := text.toArray } 0
    let hasGroup := expression.any fun sequence => sequence.any fun part => match part with
      | .group _ _ => true
      | .repeated (.group _ _) _ _ => true
      | _ => false
    match place? with
    | none => return if hasGroup then [] else "0"
    | some place =>
      if hasGroup then
        match place.groups.lookup 1 with
        | some (start, stop) => return (text.drop start).take (stop - start)
        | none => return []
      else return Text.ofNat place.position

def compare (mark : String) (first second : Text) : Option Bool :=
  let ordering := match integer? first, integer? second with
    | some left, some right => Ord.compare left right
    | _, _ => if first = second then .eq else if Text.notAfter first second then .lt else .gt
  match mark with
  | "=" | "==" => some (ordering = .eq)
  | "!=" => some (ordering ≠ .eq)
  | "<" => some (ordering = .lt)
  | "<=" => some (ordering ≠ .gt)
  | ">" => some (ordering = .gt)
  | ">=" => some (ordering ≠ .lt)
  | _ => none

def calculate (mark : String) (first second : Int) : Reading Int :=
  match mark with
  | "+" => return first + second
  | "-" => return first - second
  | "*" => return first * second
  | "/" => if second = 0 then fail .dividedByZero else return first.tdiv second
  | _ => if second = 0 then fail .dividedByZero else return first.tmod second

def next : Reading Text := do
  match ← get with
  | [] => fail .malformed
  | word :: rest =>
    set rest
    return word

def takes (marks : List String) : Reading (Option String) := do
  match ← get with
  | word :: rest => match marks.find? fun mark => Text.ofString mark = word with
    | some mark =>
      set rest
      return some mark
    | none => return none
  | [] => return none

mutual

def level (depth : Nat) : (fuel : Nat) → Reading Text
  | 0 => fail .malformed
  | fuel + 1 => do
    if depth = 6 then operand fuel
    else levelRest depth (← level (depth + 1) fuel) fuel

def levelRest (depth : Nat) (first : Text) : (fuel : Nat) → Reading Text
  | 0 => fail .malformed
  | fuel + 1 => do
    let marks := [["|"], ["&"], ["=", "==", "!=", "<", "<=", ">", ">="], ["+", "-"],
      ["*", "/", "%"], [":"]].getD depth []
    match ← takes marks with
    | none => return first
    | some mark =>
      let second ← level (depth + 1) fuel
      let value ← match mark with
        | "|" => pure (if !isNull first then first else if isNull second then "0" else second)
        | "&" => pure (if isNull first || isNull second then "0" else first)
        | ":" => fit first second
        | _ => match compare mark first second with
          | some holds => pure (ofBool holds)
          | none => do
            let left ← integer first
            pure (Text.ofInt (← calculate mark left (← integer second)))
      levelRest depth value fuel

def operand : (fuel : Nat) → Reading Text
  | 0 => fail .malformed
  | fuel + 1 => do
    let word ← next
    match word.toString? with
    | some "(" =>
      let value ← level 0 fuel
      if (← takes [")"]).isNone then fail .malformed
      return value
    | some ")" => fail .malformed
    | some "length" => return Text.ofNat (← operand fuel).length
    | some "match" =>
      let text ← operand fuel
      fit text (← operand fuel)
    | some "index" =>
      let text ← operand fuel
      let set ← operand fuel
      return match text.findIdx? (set.contains ·) with
        | some position => Text.ofNat (position + 1)
        | none => "0"
    | some "substr" =>
      let text ← operand fuel
      let start ← operand fuel
      let size ← operand fuel
      return match integer? start, integer? size with
        | some start, some size =>
          if start ≤ 0 || size ≤ 0 then [] else (text.drop (start.toNat - 1)).take size.toNat
        | _, _ => []
    | some "+" => next
    | _ => return word

end

def whole (words : List Text) : Except Problem Text := do
  let (value, rest) ← (level 0 (16 * words.length + 16)).run words
  if rest.isEmpty then return value
  throw .malformed

end Calculation

def calculate : Tool := fun call =>
  let words := if call.arguments.head? = some (Text.ofString "--") then call.arguments.drop 1
    else call.arguments
  if words.isEmpty then lacksOperand "expr" 2 call
  else match Calculation.whole (words.map fun word => Utf8.bytewise (Utf8.encode word)) with
    | .ok value => call.answer (if Calculation.isNull value then 1 else 0) (line value)
    | .error problem =>
      let wording := match problem with
        | .malformed => "syntax error"
        | .notInteger => "non-integer argument"
        | .dividedByZero => "division by zero"
      { code := 2, complaints := complaint "expr" wording, machine := call.machine }

end GenWalk.Machine.Tool
