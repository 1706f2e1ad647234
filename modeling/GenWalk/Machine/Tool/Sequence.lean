import GenWalk.Machine.Tool.Format

/-!
Sequences of numbers from a first to a last one, in steps. All numbers are written with as many
places behind the point as the first and the step have.
-/

namespace GenWalk.Machine.Tool

namespace Sequence

structure Decimal where
  units : Int
  places : Nat

def Decimal.read? (text : Text) : Option Decimal :=
  let (sign, unsigned) := Numeral.sign (text.dropWhile Numeral.isSpace)
  let (whole, rest) := Numeral.leadingDigits 10 unsigned
  let (places, rest) := match rest with
    | .char '.' :: places => Numeral.leadingDigits 10 places
    | _ => ([], rest)
  if (whole.isEmpty && places.isEmpty) || !rest.isEmpty then none
  else some {
    units := sign * Int.ofNat (Numeral.ofText 10 (whole ++ places))
    places := places.length }

def Decimal.unitsAt (places : Nat) (decimal : Decimal) : Int :=
  decimal.units * Int.ofNat (Nat.pow 10 (places - decimal.places))

def written (places width : Nat) (units : Int) : Text :=
  let sign : Text := if units < 0 then "-" else ""
  let digits := Magnitude.pointed places false (Magnitude.padded (places + 1) units.natAbs)
  sign ++ Magnitude.zeros (width - sign.length - digits.length) ++ digits

def texts (equalWidth : Bool) (first step last : Decimal) : List Text :=
  let places := max first.places step.places
  let finest := max places last.places
  let (start, stride, stop) := (first.unitsAt finest, step.unitsAt finest, last.unitsAt finest)
  let count := if stride = 0 then 0 else ((stop - start).tdiv stride + 1).toNat
  let isEmpty := if 0 < stride then stop < start else start < stop
  let units := (List.range (if isEmpty then 0 else count)).map fun position =>
    (start + stride * Int.ofNat position) / Int.ofNat (Nat.pow 10 (finest - places))
  let bound := stop / Int.ofNat (Nat.pow 10 (finest - places))
  let width := if equalWidth then
      max (written places 0 (units.headD 0)).length (written places 0 bound).length
    else 0
  units.map (written places width)

def isOption (argument : Text) : Bool :=
  argument.head? = some (.char '-') && 1 < argument.length &&
    !(argument.drop 1).head?.any fun glyph => glyph == .char '.' || (Numeral.digit? 10 glyph).isSome

def table : OptionTable where
  letters := "w"
  valued := "sf"
  long := [("equal-width", 'w'), ("separator", 's'), ("format", 'f')]
  permuted := false

def split : (fuel : Nat) → List Text → List Text × List Text
  | 0, arguments => ([], arguments)
  | _, [] => ([], [])
  | fuel + 1, argument :: rest =>
    if !isOption argument then ([], argument :: rest)
    else if argument = Text.ofString "-s" || argument = Text.ofString "-f" then
      let (options, numbers) := split fuel (rest.drop 1)
      (argument :: rest.take 1 ++ options, numbers)
    else
      let (options, numbers) := split fuel rest
      (argument :: options, numbers)

end Sequence

def sequence : Tool := fun call =>
  let (options, numbers) := Sequence.split (call.arguments.length + 1) call.arguments
  match Options.read? Sequence.table options, numbers.mapM Sequence.Decimal.read? with
  | some options, some decimals =>
    let one : Sequence.Decimal := { units := 1, places := 0 }
    let bounds? := match decimals with
      | [last] => some (one, one, last)
      | [first, last] => some (first, one, last)
      | [first, step, last] => if step.units = 0 then none else some (first, step, last)
      | _ => none
    match bounds? with
    | none => call.answer 1 []
    | some (first, step, last) =>
      let texts := Sequence.texts (options.has 'w') first step last
      let shown := match options.value? 'f' with
        | some format => texts.map fun text => Utf8.decode (printf .program [format, text]).2
        | none => texts
      let separator := (options.value? 's').getD "\n"
      call.answer 0 (if shown.isEmpty then [] else line (Text.join separator shown))
  | _, _ => call.answer 1 []

end GenWalk.Machine.Tool
