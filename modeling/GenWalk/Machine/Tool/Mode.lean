import GenWalk.Machine.Tool.Basic

/-!
Permissions as they are written: an octal number, or changes for classes of users by letters.
-/

namespace GenWalk.Machine.Tool

namespace Mode

def classBits : Char → Nat
  | 'u' => 0o700
  | 'g' => 0o070
  | 'o' => 0o007
  | _ => 0o777

def permissionBits (isDirectory : Bool) (old : Nat) : Char → Option Nat
  | 'r' => some 0o444
  | 'w' => some 0o222
  | 'x' => some 0o111
  | 'X' => some (if isDirectory || Nat.land old 0o111 ≠ 0 then 0o111 else 0)
  | 'u' => some (old / 0o100 % 8 * 0o111)
  | 'g' => some (old / 0o10 % 8 * 0o111)
  | 'o' => some (old % 8 * 0o111)
  | 's' | 't' => some 0
  | _ => none

def without (mode bits : Nat) : Nat := mode - Nat.land mode bits

def step (isDirectory : Bool) (classes : List Char) (operator : Char) (letters : List Char)
    (mode : Nat) : Option Nat := do
  let bits ← letters.foldlM (fun bits letter => do
    return Nat.lor bits (← permissionBits isDirectory mode letter)) 0
  let owned := if classes.isEmpty then 0o755 else
    classes.foldl (fun bits letter => Nat.lor bits (classBits letter)) 0
  let meant := Nat.land bits owned
  match operator with
  | '+' => return Nat.lor mode meant
  | '-' => return without mode meant
  | _ => return Nat.lor (without mode (if classes.isEmpty then 0o777 else owned)) meant

def isOperator (letter : Char) : Bool := "+-=".toList.contains letter

def steps (isDirectory : Bool) (classes : List Char) : (fuel : Nat) → List Char → Nat → Option Nat
  | 0, _, _ => none
  | _, [], mode => some mode
  | fuel + 1, operator :: rest, mode =>
    if !isOperator operator then none
    else do
      let letters := rest.takeWhile (!isOperator ·)
      steps isDirectory classes fuel (rest.drop letters.length)
        (← step isDirectory classes operator letters mode)

def change? (text : Text) (isDirectory : Bool) (old : Nat) : Option Nat :=
  match text.head?.bind (Numeral.digit? 10) with
  | some _ => ((text.mapM (Numeral.digit? 8)).map (Numeral.ofDigits 8)).filter (· ≤ 0o7777)
  | none => (Text.splitOn (.char ',') text).foldlM (fun mode change => do
      let letters ← change.mapM Glyph.char?
      let classes := letters.takeWhile ("ugoa".toList.contains ·)
      let rest := letters.drop classes.length
      if rest.isEmpty then none
      steps isDirectory classes (rest.length + 1) rest mode) old

end Mode

def changeModes : Tool := fun call =>
  let flags := call.arguments.takeWhile fun argument =>
    [Text.ofString "-R", "-v", "-f", "-c"].contains argument
  let operands := call.arguments.drop flags.length
  match operands with
  | [] | [_] => lacksOperand "chmod" 1 call
  | mode :: paths =>
    if (Mode.change? mode false 0).isNone then
      { code := 1
        complaints := complaint "chmod" ("invalid mode: \x27" ++ mode ++ "\x27")
        machine := call.machine }
    else
      let change (current : Machine) (path : Text) : Except Fault Machine := do
        let (location, entry) ← current.findEntry true path
        let deep := if flags.contains (Text.ofString "-R") && entry.isDirectory then
          (current.below location).map fun entry => (location ++ entry.1, entry.2)
          else [(location, entry)]
        deep.foldlM (fun machine (place, entry) =>
          machine.changeMode ((Mode.change? mode entry.isDirectory entry.mode).getD entry.mode)
            (Lookup.pathTo place).toText) current
      forEachOperand "chmod" "cannot access" paths change call

end GenWalk.Machine.Tool
