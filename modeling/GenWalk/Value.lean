import GenWalk.Calendar
import GenWalk.Text.Utf8

/-!
Data without a fixed form, as configuration files and requests hold it, before anything is known
about its kind.
-/

namespace GenWalk

inductive Value where
  | null
  | boolean (value : Bool)
  | integer (value : Int)
  | real (value : Float)
  | text (value : Text)
  | bytes (value : Bytes)
  | date (moment : Moment)
  | timestamp (moment : Moment)
  | list (items : List Value)
  | map (entries : List (Value × Value))
  | set (items : List Value)
deriving Inhabited

namespace Value

def kindName : Value → String
  | null => "NoneType"
  | boolean _ => "bool"
  | integer _ => "int"
  | real _ => "float"
  | text _ => "str"
  | bytes _ => "bytes"
  | date _ => "date"
  | timestamp _ => "datetime"
  | list _ => "list"
  | map _ => "dict"
  | set _ => "set"

def field? (entries : List (Value × Value)) (name : Text) : Option Value :=
  (entries.reverse.find? fun entry => match entry.1 with
    | .text key => key == name
    | _ => false).map Prod.snd

end Value

/-- A finite floating-point number as an integer times a power of two. -/
structure Dyadic where
  mantissa : Int
  exponent : Int
deriving DecidableEq

namespace Dyadic

def powerOfTwo (exponent : Nat) : Nat := Nat.pow 2 exponent

def fractionUnit : Nat := powerOfTwo 52

def ofFloat? (number : Float) : Option Dyadic :=
  let bits := number.toBits.toNat
  let biased := bits / fractionUnit % 0x800
  let fraction := bits % fractionUnit
  let sign : Int := if bits / fractionUnit < 0x800 then 1 else -1
  if biased = 0x7FF then none
  else if biased = 0 then some ⟨sign * Int.ofNat fraction, -1074⟩
  else some ⟨sign * Int.ofNat (fraction + fractionUnit), Int.ofNat biased - 1075⟩

def toInt? (number : Dyadic) : Option Int :=
  let factor := Int.ofNat (powerOfTwo number.exponent.natAbs)
  if 0 ≤ number.exponent then some (number.mantissa * factor)
  else if number.mantissa % factor = 0 then some (number.mantissa / factor)
  else none

end Dyadic

namespace Value

def wholeNumber? : Value → Option Int
  | boolean value => some (if value then 1 else 0)
  | integer value => some value
  | real value => (Dyadic.ofFloat? value).bind Dyadic.toInt?
  | _ => none

/-- Whether two values that can be keys are the same key. Numbers are told apart by their size
alone. -/
def isSameKey (first second : Value) : Bool :=
  match first, second with
  | null, null => true
  | text first, text second => first == second
  | bytes first, bytes second => first == second
  | date first, date second | timestamp first, timestamp second => first.isSame second
  | real first, real second => first == second
  | _, _ => match first.wholeNumber?, second.wholeNumber? with
    | some first, some second => first == second
    | _, _ => false

def distinctKeys (values : List Value) : List Value :=
  (values.foldl (fun kept value => if kept.any (isSameKey · value) then kept else value :: kept)
    []).reverse

end Value

end GenWalk
