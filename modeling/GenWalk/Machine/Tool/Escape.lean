import GenWalk.Machine.Tool.Basic

/-!
Escapes in texts that are put out: a backslash and what it makes of the glyphs behind it. The
commands that know escapes differ in a few of them, which `EscapeRule` tells.
-/

namespace GenWalk.Machine

structure EscapeRule where
  zeroLeads : Bool := false
  stops : Bool := false
  hexadecimal : Bool := false
  quote : Bool := false
deriving DecidableEq

namespace EscapeRule

def scriptText : EscapeRule := { zeroLeads := true, stops := true }

def scriptFormat : EscapeRule := { quote := true }

def echo : EscapeRule := { zeroLeads := true, stops := true, hexadecimal := true }

def printedText : EscapeRule := { echo with quote := true }

def printedFormat : EscapeRule := { stops := true, hexadecimal := true, quote := true }

inductive Escaped where
  | bytes (value : Bytes)
  | stop
deriving DecidableEq

def named : List (Char × UInt8) := [
  ('a', 0x07), ('b', 0x08), ('e', 0x1B), ('f', 0x0C), ('n', 0x0A), ('r', 0x0D), ('t', 0x09),
  ('v', 0x0B), ('\\', 0x5C)]

def numbered (base limit skipped : Nat) (text : Text) : Escaped × Nat :=
  let digits := (Numeral.leadingDigits base ((text.drop skipped).take limit)).1
  (.bytes [UInt8.ofNat (Numeral.ofText base digits)], skipped + digits.length)

def behindBackslash (rule : EscapeRule) (text : Text) : Escaped × Nat :=
  let kept : Escaped × Nat := (.bytes [0x5C], 0)
  match text with
  | .char letter :: rest =>
    if let some byte := named.lookup letter then (.bytes [byte], 1)
    else if letter = 'c' && rule.stops then (.stop, 1)
    else if letter = '"' && rule.quote then (.bytes [0x22], 1)
    else if letter = 'x' && rule.hexadecimal then
      if (Numeral.leadingDigits 16 (rest.take 1)).1.isEmpty then kept else numbered 16 2 1 text
    else if letter = '0' && rule.zeroLeads then numbered 8 3 1 text
    else if (Numeral.digit? 8 (.char letter)).isSome then numbered 8 3 0 text
    else kept
  | _ => kept

def step (rule : EscapeRule) (glyph : Glyph) (rest : Text) : Escaped × Nat :=
  if glyph = .char '\\' then rule.behindBackslash rest else (.bytes (Utf8.encodeGlyph glyph), 0)

def apply (rule : EscapeRule) (text : Text) : Bytes × Bool :=
  let places := scan rule.step text
  ((places.takeWhile (· ≠ .stop)).flatMap fun place => match place with
    | .bytes value => value
    | .stop => [],
  places.contains .stop)

end EscapeRule

namespace Tool

def echo (rule? : Option EscapeRule) (endsLine : Bool) (arguments : List Text) : Bytes :=
  let text := Text.join " " arguments
  let (bytes, isStopped) := match rule? with
    | some rule => rule.apply text
    | none => (Utf8.encode text, false)
  if endsLine && !isStopped then bytes ++ [0x0A] else bytes

def echoProgram : Tool := fun call =>
  let isFlag (argument : Text) : Bool :=
    1 < argument.length && argument.head? = some (.char '-') &&
      (argument.drop 1).all fun letter => "neE".toList.any (Glyph.char · = letter)
  let flags := call.arguments.takeWhile isFlag
  let letters : Text := flags.flatMap (·.drop 1)
  let escapes := decide ((letters.filter (· ≠ .char 'n')).getLast? = some (.char 'e'))
  call.answer 0 (echo (if escapes then some .echo else none) (!letters.contains (.char 'n'))
    (call.arguments.drop flags.length))

end Tool

end GenWalk.Machine
