import GenWalk.Machine.Tool.Listing
import GenWalk.Script.Pattern

/-!
Finding files below directories by their names and kinds, and comparing two files.
-/

namespace GenWalk.Machine.Tool

namespace Finding

inductive Test where
  | name (pattern : List Script.Pattern) (folds : Bool)
  | path (pattern : List Script.Pattern)
  | kind (wanted : EntryKind)
  | empty
  | negation (inner : Test)

structure Plan where
  tests : List Test := []
  least : Nat := 0
  most? : Option Nat := none
  separator : Text := "\n"

def lower (text : Text) : Text :=
  text.map fun glyph => match glyph with
    | .char letter => .char letter.toLower
    | other => other

def Test.holds (machine : Machine) (path name : Text) : Test → Bool
  | .name pattern folds => Script.Pattern.fits pattern (if folds then lower name else name)
  | .path pattern => Script.Pattern.fits pattern path
  | .kind wanted => (machine.kind false path).toOption = some wanted
  | .empty => match machine.findEntry false path with
    | .ok (location, .directory _) => (machine.disk.names location).isEmpty
    | .ok (_, entry@(.file _ _)) => (contentOf entry).isEmpty
    | _ => false
  | .negation inner => !inner.holds machine path name

def patternOf (text : Text) : List Script.Pattern :=
  Script.Pattern.ofMarked (text.map fun glyph => (glyph, false))

def kind? (text : Text) : Option EntryKind :=
  match text.toString? with
  | some "f" => some .file
  | some "d" => some .directory
  | some "l" => some .link
  | some "c" => some .device
  | _ => none

def plan? : (fuel : Nat) → List Text → Plan → Option Plan
  | 0, _, _ => none
  | _, [], plan => some plan
  | fuel + 1, word :: rest, plan =>
    let valued (use : Text → Option Plan) : Option Plan := do
      plan? fuel (rest.drop 1) (← use (← rest.head?))
    let withTest (test : Test) : Plan := { plan with tests := plan.tests ++ [test] }
    match word.toString? with
    | some "-name" => valued fun value => some (withTest (.name (patternOf value) false))
    | some "-iname" => valued fun value => some (withTest (.name (patternOf (lower value)) true))
    | some "-path" => valued fun value => some (withTest (.path (patternOf value)))
    | some "-type" => valued fun value => (kind? value).map fun kind => withTest (.kind kind)
    | some "-maxdepth" => valued fun value => (Numeral.decimal? value).map fun depth =>
        { plan with most? := some depth }
    | some "-mindepth" => valued fun value => (Numeral.decimal? value).map fun depth =>
        { plan with least := depth }
    | some "-empty" => plan? fuel rest (withTest .empty)
    | some "-print" => plan? fuel rest plan
    | some "-print0" => plan? fuel rest { plan with separator := "\x00" }
    | some "!" | some "-not" => do
      let inner ← plan? fuel rest {}
      match inner.tests with
      | first :: others => return { inner with
          tests := plan.tests ++ .negation first :: others
          least := max plan.least inner.least
          most? := inner.most?.or plan.most? }
      | [] => none
    | _ => none

def found (plan : Plan) (machine : Machine) (depth : Nat) : (fuel : Nat) → (path name : Text) →
    List Text
  | 0, _, _ => []
  | fuel + 1, path, name =>
    let here := if plan.least ≤ depth && plan.tests.all (·.holds machine path name) then [path]
      else []
    let isEntered := plan.most?.all (depth < ·) &&
      (machine.kind false path).toOption = some .directory
    here ++ if isEntered then
      (Text.sorted ((machine.names path).toOption.getD [])).flatMap fun child =>
        found plan machine (depth + 1) fuel (Listing.childPath path child) child
      else []

end Finding

def find : Tool := fun call =>
  let isPath (argument : Text) : Bool :=
    argument.head? ≠ some (.char '-') && argument ≠ Text.ofString "!"
  let paths := call.arguments.takeWhile isPath
  let roots := if paths.isEmpty then [Text.ofString "."] else paths
  match Finding.plan? (call.arguments.length + 1) (call.arguments.drop paths.length) {} with
  | none => call.answer 1 []
  | some plan =>
    let machine := call.machine
    let known := roots.filter fun path => (machine.kind false path).toBool
    let lines := known.flatMap fun path =>
      Finding.found plan machine 0 (machine.disk.entries.length + 1) path (Path.ofText path).name
    { code := if known.length = roots.length then 0 else 1
      output := lines.flatMap fun path => Utf8.encode (path ++ plan.separator)
      machine }

/-! ### Comparing files -/

def commonLength [DecidableEq α] : List α → List α → Nat
  | first :: rest, second :: others => if first = second then commonLength rest others + 1 else 0
  | _, _ => 0

def compareFiles : Tool :=
  withOptions { letters := "slb" } 2 fun options call =>
    match options.operands with
    | [first, second] => match contents call [first, second] with
      | [(_, .ok left), (_, .ok right)] =>
        let same := commonLength left right
        if left = right then call.answer 0 []
        else if options.has 's' then call.answer 1 []
        else if same = left.length || same = right.length then call.answer 1 []
        else
          let row := (left.take same).count 0x0A + 1
          call.answer 1 (line (first ++ " " ++ second ++ " differ: char " ++
            Text.ofNat (same + 1) ++ ", line " ++ Text.ofNat row))
      | _ => call.answer 2 []
    | _ => call.answer 2 []

end GenWalk.Machine.Tool
