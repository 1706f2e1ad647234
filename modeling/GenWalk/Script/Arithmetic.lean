import GenWalk.Environment
import GenWalk.Numeral.Leading
import GenWalk.Template

/-!
Arithmetic in scripts: whole numbers of sixty-four bits with the operators that programmers know,
over the variables of the script. An expression is read first and then evaluated, so that a part
that does not count changes no variable.
-/

namespace GenWalk.Script

inductive BinaryOperator where
  | multiply
  | divide
  | remainder
  | add
  | subtract
  | shiftLeft
  | shiftRight
  | less
  | lessOrEqual
  | greater
  | greaterOrEqual
  | equal
  | unequal
  | bitAnd
  | bitXor
  | bitOr
deriving DecidableEq, Inhabited

inductive UnaryOperator where
  | plus
  | minus
  | complement
  | negation
deriving DecidableEq, Inhabited

inductive Expression where
  | constant (value : Int)
  | variable (name : Text)
  | assign (name : Text) (operator? : Option BinaryOperator) (value : Expression)
  | unary (operator : UnaryOperator) (operand : Expression)
  | binary (operator : BinaryOperator) (first second : Expression)
  | both (first second : Expression)
  | either (first second : Expression)
  | choose (condition first second : Expression)
deriving DecidableEq, Inhabited

namespace Arithmetic

def numberCount : Nat := 0x10000000000000000

def largest : Int := 0x7FFFFFFFFFFFFFFF
def smallest : Int := -0x8000000000000000

/-- The number that an integer beyond the numbers comes round to. -/
def wrapped (value : Int) : Int := value.bmod numberCount

def clamped (value : Int) : Int := max smallest (min largest value)

def valueNumber? (text : Text) : Option Int :=
  let body := text.trimBy Numeral.isSpace
  if text.isEmpty then some 0
  else
    let (sign, unsigned) := Numeral.sign body
    let (number, rest) := Numeral.leadingMarked unsigned
    if !(unsigned.head?.any (·.satisfies Char.isDigit)) || !rest.isEmpty then none
    else some (clamped (sign * Int.ofNat number))

/-! ### Reading -/

abbrev Reading (α : Type) := StateT Text Option α

def fail : Reading α := fun _ => none

def isSpace (glyph : Glyph) : Bool :=
  glyph == .char ' ' || glyph == .char '\t' || glyph == .char '\n'

def skipSpace : Reading Unit := modify (·.dropWhile isSpace)

def marks : List String := [
  "<<=", ">>=", "<<", ">>", "<=", ">=", "==", "!=", "&&", "||", "*=", "/=", "%=", "+=", "-=", "&=",
  "^=", "|=", "*", "/", "%", "+", "-", "<", ">", "&", "^", "|", "!", "~", "=", "?", ":", "(", ")"]

def leadingMark? (text : Text) : Option String :=
  marks.find? fun mark => (Text.ofString mark).isPrefixOf text

def takes (mark : String) : Reading Bool := do
  skipSpace
  if leadingMark? (← get) = some mark then
    modify (·.drop mark.length)
    return true
  return false

def takesOne (table : List (String × α)) : Reading (Option α) := do
  skipSpace
  match (leadingMark? (← get)).bind fun mark => (table.lookup mark).map (mark, ·) with
  | some (mark, meaning) =>
    modify (·.drop mark.length)
    return some meaning
  | none => return none

def levels : List (List (String × BinaryOperator)) := [
  [("*", .multiply), ("/", .divide), ("%", .remainder)],
  [("+", .add), ("-", .subtract)],
  [("<<", .shiftLeft), (">>", .shiftRight)],
  [("<", .less), ("<=", .lessOrEqual), (">", .greater), (">=", .greaterOrEqual)],
  [("==", .equal), ("!=", .unequal)],
  [("&", .bitAnd)],
  [("^", .bitXor)],
  [("|", .bitOr)]]

def assignments : List (String × Option BinaryOperator) := [
  ("=", none), ("*=", some .multiply), ("/=", some .divide), ("%=", some .remainder),
  ("+=", some .add), ("-=", some .subtract), ("<<=", some .shiftLeft), (">>=", some .shiftRight),
  ("&=", some .bitAnd), ("^=", some .bitXor), ("|=", some .bitOr)]

def unaryOperators : List (String × UnaryOperator) :=
  [("+", .plus), ("-", .minus), ("~", .complement), ("!", .negation)]

def name? : Reading (Option Text) := do
  skipSpace
  let text ← get
  match text with
  | .char first :: _ =>
    if Template.isNameStart first then
      let name := text.takeWhile (·.satisfies Template.isNamePart)
      set (text.drop name.length)
      return some name
    return none
  | _ => return none

mutual

def assignment : (fuel : Nat) → Reading Expression
  | 0 => fail
  | fuel + 1 => do
    let start ← get
    if let some name ← name? then
      if let some operator? ← takesOne assignments then
        return .assign name operator? (← assignment fuel)
    set start
    conditional fuel

def conditional : (fuel : Nat) → Reading Expression
  | 0 => fail
  | fuel + 1 => do
    let condition ← alternative fuel
    if ← takes "?" then
      let first ← assignment fuel
      unless ← takes ":" do fail
      return .choose condition first (← conditional fuel)
    return condition

def alternative : (fuel : Nat) → Reading Expression
  | 0 => fail
  | fuel + 1 => do
    let first ← conjunction fuel
    if ← takes "||" then return .either first (← alternative fuel)
    return first

def conjunction : (fuel : Nat) → Reading Expression
  | 0 => fail
  | fuel + 1 => do
    let first ← level levels.reverse fuel
    if ← takes "&&" then return .both first (← conjunction fuel)
    return first

def level (remaining : List (List (String × BinaryOperator))) : (fuel : Nat) → Reading Expression
  | 0 => fail
  | fuel + 1 => match remaining with
    | [] => operand fuel
    | operators :: tighter => do levelRest operators tighter (← level tighter fuel) fuel

def levelRest (operators : List (String × BinaryOperator))
    (tighter : List (List (String × BinaryOperator))) (first : Expression) :
    (fuel : Nat) → Reading Expression
  | 0 => fail
  | fuel + 1 => do
    match ← takesOne operators with
    | some operator =>
      levelRest operators tighter (.binary operator first (← level tighter fuel)) fuel
    | none => return first

def operand : (fuel : Nat) → Reading Expression
  | 0 => fail
  | fuel + 1 => do
    if ← takes "(" then
      let inner ← assignment fuel
      unless ← takes ")" do fail
      return inner
    if let some operator ← takesOne unaryOperators then
      return .unary operator (← operand fuel)
    if let some name ← name? then return .variable name
    let text ← get
    unless text.head?.any (·.satisfies Char.isDigit) do fail
    let (number, rest) := Numeral.leadingMarked text
    set rest
    return .constant (clamped (Int.ofNat number))

end

def read? (text : Text) : Option Expression := do
  let (expression, rest) ← (assignment (16 * text.length + 16)).run text
  if rest.all isSpace then some expression else none

/-! ### Evaluation -/

inductive Problem where
  | malformed
  | dividedByZero
  | notNumber (value : Text)
deriving DecidableEq, Inhabited

abbrev Evaluation (α : Type) := EStateM Problem Environment α

def ofBool (holds : Bool) : Int := if holds then 1 else 0

def bitsOf (value : Int) : Nat := (value.emod numberCount).toNat

def distance (value : Int) : Nat := bitsOf value % 64

def apply (operator : BinaryOperator) (first second : Int) : Except Problem Int :=
  match operator with
  | .multiply => .ok (wrapped (first * second))
  | .divide =>
    if second = 0 then .error .dividedByZero else .ok (wrapped (first.tdiv second))
  | .remainder => if second = 0 then .error .dividedByZero else .ok (first.tmod second)
  | .add => .ok (wrapped (first + second))
  | .subtract => .ok (wrapped (first - second))
  | .shiftLeft => .ok (wrapped (first * Int.ofNat (Nat.pow 2 (distance second))))
  | .shiftRight => .ok (first / Int.ofNat (Nat.pow 2 (distance second)))
  | .less => .ok (ofBool (first < second))
  | .lessOrEqual => .ok (ofBool (first ≤ second))
  | .greater => .ok (ofBool (second < first))
  | .greaterOrEqual => .ok (ofBool (second ≤ first))
  | .equal => .ok (ofBool (first = second))
  | .unequal => .ok (ofBool (first ≠ second))
  | .bitAnd => .ok (wrapped (Nat.land (bitsOf first) (bitsOf second)))
  | .bitXor => .ok (wrapped (Nat.xor (bitsOf first) (bitsOf second)))
  | .bitOr => .ok (wrapped (Nat.lor (bitsOf first) (bitsOf second)))

def applyUnary : UnaryOperator → Int → Int
  | .plus, value => value
  | .minus, value => wrapped (-value)
  | .complement, value => -value - 1
  | .negation, value => ofBool (value = 0)

def compute (operator : BinaryOperator) (first second : Int) : Evaluation Int :=
  match apply operator first second with
  | .ok value => return value
  | .error problem => throw problem

def variableValue (name : Text) : Evaluation Int := do
  let value := ((← get).get? name).getD []
  match valueNumber? value with
  | some number => return number
  | none => throw (.notNumber value)

def evaluate : Expression → Evaluation Int
  | .constant value => return value
  | .variable name => variableValue name
  | .assign name operator? value => do
    let new ← evaluate value
    let result ← match operator? with
      | none => pure new
      | some operator => do compute operator (← variableValue name) new
    modify (·.set name (Text.ofInt result))
    return result
  | .unary operator operand => return applyUnary operator (← evaluate operand)
  | .binary operator first second => do
    let first ← evaluate first
    compute operator first (← evaluate second)
  | .both first second => do
    if (← evaluate first) = 0 then return 0
    return ofBool ((← evaluate second) ≠ 0)
  | .either first second => do
    if (← evaluate first) ≠ 0 then return 1
    return ofBool ((← evaluate second) ≠ 0)
  | .choose condition first second => do
    if (← evaluate condition) ≠ 0 then evaluate first else evaluate second

def valueOf (text : Text) : Evaluation Int :=
  match read? text with
  | some expression => evaluate expression
  | none => throw .malformed

end Arithmetic

end GenWalk.Script
