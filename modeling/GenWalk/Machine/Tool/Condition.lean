import GenWalk.Machine.Tool.Basic

/-!
Conditions on texts, numbers and files, as scripts write them: comparisons and questions, joined by
marks for "and", "or" and "not". A condition may make no sense.
-/

namespace GenWalk.Machine.Tool

inductive ConditionMark where
  | question
  | comparison
  | negation
  | both
  | either
  | opening
  | closing
deriving DecidableEq

namespace Condition

inductive Problem where
  | notNumber (word : Text)
  | unexpected (word : Text)
  | lacksArgument (word : Text)
  | lacksBracket
deriving DecidableEq

def Problem.message : Problem → Text
  | notNumber word => "Illegal number: " ++ word
  | unexpected word => word ++ ": unexpected operator"
  | lacksArgument word => word ++ ": argument expected"
  | lacksBracket => "closing paren expected"

def mark? (doubled : Bool) (word : Text) : Option ConditionMark :=
  match word.toString? with
  | some "!" => some .negation
  | some "-a" => some .both
  | some "-o" => some .either
  | some "(" => some .opening
  | some ")" => some .closing
  | some "==" => if doubled then some .comparison else none
  | some text =>
    if ["=", "!=", "<", ">", "-eq", "-ne", "-gt", "-ge", "-lt", "-le", "-nt", "-ot",
        "-ef"].contains text then some .comparison
    else match text.toList with
      | ['-', letter] => if "rwxefdcbpugkstznhOGLS".toList.contains letter then some .question
          else none
      | _ => none
  | none => none

def fileIs (machine : Machine) (path : Text) (holds : Entry → Bool) : Bool :=
  match machine.findEntry true path with
  | .ok (_, entry) => holds entry
  | .error _ => false

def mayRun (machine : Machine) (entry : Entry) : Bool :=
  if machine.privileged then
    entry.isDirectory || entry.mode % 2 = 1 || entry.mode / 8 % 2 = 1 || entry.mode / 64 % 2 = 1
  else entry.mode % 2 = 1

def answer (machine : Machine) (question : Text) (operand : Text) : Bool :=
  let fileIs := fileIs machine operand
  match question.toString? with
  | some "-n" => !operand.isEmpty
  | some "-z" => operand.isEmpty
  | some "-e" => fileIs fun _ => true
  | some "-f" => fileIs fun entry => kindOf entry = .file
  | some "-d" => fileIs Entry.isDirectory
  | some "-c" => fileIs fun entry => kindOf entry = .device
  | some "-r" => fileIs fun entry => machine.viewer.may .read entry
  | some "-w" => fileIs fun entry => machine.viewer.may .write entry
  | some "-x" => fileIs (mayRun machine)
  | some "-s" => fileIs fun entry => entry.isDirectory || !(contentOf entry).isEmpty
  | some "-O" | some "-G" => fileIs fun _ => machine.privileged
  | some "-h" | some "-L" =>
    (machine.kind false operand).toOption = some .link
  | _ => false

def number (word : Text) : Except Problem Int :=
  match Numeral.plainInteger? word with
  | some number => .ok number
  | none => .error (.notNumber word)

def compare (machine : Machine) (left comparison right : Text) : Except Problem Bool :=
  let numbers (holds : Int → Int → Bool) : Except Problem Bool := do
    let first ← number left
    return holds first (← number right)
  match comparison.toString? with
  | some "=" | some "==" => .ok (left = right)
  | some "!=" => .ok (left ≠ right)
  | some "<" => .ok (!Text.notAfter right left)
  | some ">" => .ok (!Text.notAfter left right)
  | some "-eq" => numbers (· = ·)
  | some "-ne" => numbers (· ≠ ·)
  | some "-lt" => numbers (· < ·)
  | some "-le" => numbers (· ≤ ·)
  | some "-gt" => numbers (· > ·)
  | some "-ge" => numbers (· ≥ ·)
  | some "-ef" => .ok (match machine.findEntry true left, machine.findEntry true right with
      | .ok first, .ok second => first.1 = second.1
      | _, _ => false)
  | _ => .ok false

/-- What the first word is. A question that stands last, or before a comparison, is a plain word,
and so is an opening bracket that stands last. -/
def leadingMark? (doubled : Bool) (words : List Text) : Option ConditionMark :=
  match words with
  | [] => none
  | word :: rest => match mark? doubled word, rest with
    | some .question, [] | some .opening, [] => none
    | some .question, next :: _ :: _ =>
      if mark? doubled next = some .comparison then none else some .question
    | mark, _ => mark

abbrev Reading := Except Problem (Bool × List Text)

mutual

def either (doubled : Bool) (machine : Machine) : (fuel : Nat) → List Text → Reading
  | 0, _ => .error .lacksBracket
  | fuel + 1, words => do
    let (first, rest) ← both doubled machine fuel words
    if leadingMark? doubled rest = some .either then
      let (second, behind) ← either doubled machine fuel (rest.drop 1)
      return (first || second, behind)
    return (first, rest)

def both (doubled : Bool) (machine : Machine) : (fuel : Nat) → List Text → Reading
  | 0, _ => .error .lacksBracket
  | fuel + 1, words => do
    let (first, rest) ← single doubled machine fuel words
    if leadingMark? doubled rest = some .both then
      let (second, behind) ← both doubled machine fuel (rest.drop 1)
      return (first && second, behind)
    return (first, rest)

def single (doubled : Bool) (machine : Machine) : (fuel : Nat) → List Text → Reading
  | 0, _ => .error .lacksBracket
  | fuel + 1, words => match leadingMark? doubled words, words with
    | some .negation, _ => do
      let (value, rest) ← single doubled machine fuel (words.drop 1)
      return (!value, rest)
    | _, [] => .ok (false, [])
    | some .opening, _ =>
      if leadingMark? doubled (words.drop 1) = some .closing then .ok (false, words.drop 2)
      else do
        let (value, rest) ← either doubled machine fuel (words.drop 1)
        if leadingMark? doubled rest = some .closing then return (value, rest.drop 1)
        throw .lacksBracket
    | some .question, question :: operand :: rest => .ok (answer machine question operand, rest)
    | _, word :: rest =>
      if leadingMark? doubled rest = some .comparison then match rest with
        | comparison :: right :: behind => do
          return (← compare machine word comparison right, behind)
        | _ => .error (.lacksArgument (rest.headD []))
      else .ok (!word.isEmpty, rest)

end

def whole (doubled : Bool) (machine : Machine) (words : List Text) : Except Problem Bool := do
  let (value, rest) ← either doubled machine (4 * words.length + 4) words
  if let word :: _ := rest then
    throw (.unexpected (words.getD (words.length - rest.length - 1) word))
  return value

/-- Three words with a comparison in the middle are that comparison; three or four in brackets are
what stands in these, and behind a negation the rest counts. -/
def value? (doubled : Bool) (machine : Machine) (words : List Text) :
    Except Problem Bool :=
  let inside? := match words with
    | first :: rest =>
      if first = Text.ofString "(" && rest.getLast? = some (Text.ofString ")") then
        some rest.dropLast
      else none
    | [] => none
  match words, inside? with
  | [], _ => .ok false
  | [left, middle, right], _ =>
    if mark? doubled middle = some .comparison then compare machine left middle right
    else match inside? with
      | some inside => whole doubled machine inside
      | none =>
        if left = Text.ofString "!" then (value? doubled machine [middle, right]).map (!·)
        else whole doubled machine words
  | [first, second, third, fourth], none =>
    if first = Text.ofString "!" then (value? doubled machine [second, third, fourth]).map (!·)
    else whole doubled machine words
  | [_, _, _, _], some inside => whole doubled machine inside
  | _, _ => whole doubled machine words

end Condition

def conditionCode (doubled : Bool) (machine : Machine) (words : List Text) : Nat :=
  match Condition.value? doubled machine words with
  | .ok true => 0
  | .ok false => 1
  | .error _ => 2

def bracketCode (doubled : Bool) (machine : Machine) (words : List Text) : Nat :=
  if words.getLast? = some (Text.ofString "]") then conditionCode doubled machine words.dropLast
  else 2

end GenWalk.Machine.Tool
