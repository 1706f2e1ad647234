import GenWalk.Numeral.Loose
import GenWalk.Value

/-!
Checking data against the kind that is wanted. A check that fails says where and why, and checks
that stand side by side report all their findings together, in order.
-/

namespace GenWalk

inductive Step where
  | field (name : Text)
  | index (position : Nat)
deriving DecidableEq, Inhabited

def Step.text : Step → Text
  | field name => name
  | index position => Text.ofNat position

inductive Objection where
  | missing
  | notText
  | textNotUnicode
  | notInteger
  | integerUnreadable
  | integerTooLong
  | integerWithFraction
  | integerNotFinite
  | notList
  | notMap
  | notRecord (name : String)
  | forbidden (reason : Text)
deriving DecidableEq, Inhabited

namespace Objection

def code : Objection → String
  | missing => "missing"
  | notText => "string_type"
  | textNotUnicode => "string_unicode"
  | notInteger => "int_type"
  | integerUnreadable => "int_parsing"
  | integerTooLong => "int_parsing_size"
  | integerWithFraction => "int_from_float"
  | integerNotFinite => "finite_number"
  | notList => "list_type"
  | notMap => "dict_type"
  | notRecord _ => "model_type"
  | forbidden _ => "value_error"

def message : Objection → Text
  | missing => "Field required"
  | notText => "Input should be a valid string"
  | textNotUnicode =>
    "Input should be a valid string, unable to parse raw data as a unicode string"
  | notInteger => "Input should be a valid integer"
  | integerUnreadable =>
    "Input should be a valid integer, unable to parse string as an integer"
  | integerTooLong => "Unable to parse input string as an integer, exceeded maximum size"
  | integerWithFraction =>
    "Input should be a valid integer, got a number with a fractional part"
  | integerNotFinite => "Input should be a finite number"
  | notList => "Input should be a valid list"
  | notMap => "Input should be a valid dictionary"
  | notRecord name => "Input should be a valid dictionary or instance of " ++ name
  | forbidden reason => "Value error, " ++ reason

end Objection

structure Issue where
  location : List Step
  objection : Objection
deriving DecidableEq, Inhabited

def Issue.report (issue : Issue) : Text :=
  Text.join "." (issue.location.map Step.text) ++ "\n  " ++ issue.objection.message ++
    " [type=" ++ issue.objection.code ++ "]"

abbrev Checked (α : Type) := Except (List Issue) α

namespace Checked

def refuse (objection : Objection) : Checked α := .error [⟨[], objection⟩]

def accept (value : α) : Checked α := .ok value

/-- One more check beside those that a function waits for: the issues of all of them are kept. -/
def beside : Checked (α → β) → Checked α → Checked β
  | .ok build, .ok value => .ok (build value)
  | .ok _, .error issues => .error issues
  | .error issues, .ok _ => .error issues
  | .error issues, .error others => .error (issues ++ others)

def every : List (Checked α) → Checked (List α)
  | [] => .ok []
  | first :: rest => ((accept List.cons).beside first).beside (every rest)

def within (step : Step) : Checked α → Checked α
  | .ok value => .ok value
  | .error issues =>
    .error (issues.map fun issue => { issue with location := step :: issue.location })

/-- The check of a field: a field that is left out has its default, if it has one. -/
def field (entries : List (Value × Value)) (name : String) (default? : Option α)
    (check : Value → Checked α) : Checked α :=
  within (.field name) <| match Value.field? entries name, default? with
    | some value, _ => check value
    | none, some value => .ok value
    | none, none => refuse .missing

end Checked

namespace Value

def integerOfText (text : Text) : Checked Int :=
  match Numeral.looseInteger text with
  | .ok value => .ok value
  | .error .unreadable => Checked.refuse .integerUnreadable
  | .error .tooLong => Checked.refuse .integerTooLong

def realIntegerBound : Nat := Dyadic.powerOfTwo 63

def integerOfReal (real : Float) : Checked Int :=
  match Dyadic.ofFloat? real with
  | none => Checked.refuse .integerNotFinite
  | some number => match number.toInt? with
    | none => Checked.refuse .integerWithFraction
    | some value =>
      if value.natAbs < realIntegerBound then .ok value else Checked.refuse .integerTooLong

def checkInteger : Value → Checked Int
  | integer value => .ok value
  | boolean value => .ok (if value then 1 else 0)
  | real value => integerOfReal value
  | text value => if value.isClean then integerOfText value else Checked.refuse .textNotUnicode
  | bytes value => match Utf8.decodeStrict? value with
    | some decoded => integerOfText decoded
    | none => Checked.refuse .integerUnreadable
  | _ => Checked.refuse .notInteger

def checkText : Value → Checked Text
  | text value => .ok value
  | bytes value => match Utf8.decodeStrict? value with
    | some decoded => .ok decoded
    | none => Checked.refuse .textNotUnicode
  | _ => Checked.refuse .notText

def checkTextList : Value → Checked (List Text)
  | list items | set items =>
    Checked.every (items.mapIdx fun position item =>
      Checked.within (.index position) item.checkText)
  | _ => Checked.refuse .notList

def checkMap : Value → Checked (List (Value × Value))
  | map entries => .ok entries
  | _ => Checked.refuse .notMap

def checkOptional (check : Value → Checked α) : Value → Checked (Option α)
  | null => .ok none
  | value => (check value).map some

end Value

end GenWalk
