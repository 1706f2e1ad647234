import GenWalk.Machine.Tool.Escape
import GenWalk.Numeral.Rounded

/-!
Formatted output: a format with directives, each of which takes an argument and writes it in its own
way. The format is followed again as long as arguments are left.
-/

namespace GenWalk.Machine

structure FormatRule where
  format : EscapeRule
  text : EscapeRule
  sizeMarks : String
  quotes : Bool
  bits : Nat
  failure : Nat

namespace FormatRule

def script : FormatRule where
  format := .scriptFormat
  text := .scriptText
  sizeMarks := ""
  quotes := false
  bits := 53
  failure := 2

def program : FormatRule where
  format := .printedFormat
  text := .printedText
  sizeMarks := "hlLjtz"
  quotes := true
  bits := 64
  failure := 1

end FormatRule

namespace Tool

/-! ### Directives -/

structure Directive where
  flags : List Char := []
  width : Nat := 0
  precision? : Option Nat := none
  mark : Char := 's'

namespace Directive

def has (directive : Directive) (flag : Char) : Bool := directive.flags.contains flag

def filled (directive : Directive) (text : Text) : Text :=
  let blanks := List.replicate (directive.width - text.length) (Glyph.char ' ')
  if directive.has '-' then text ++ blanks else blanks ++ text

def cut (directive : Directive) (text : Text) : Text :=
  match directive.precision? with
  | some size => text.take size
  | none => text

def filledNumber (directive : Directive) (zeroFills : Bool) (before digits : Text) : Text :=
  if zeroFills && directive.has '0' && !directive.has '-' then
    before ++ Magnitude.zeros (directive.width - before.length - digits.length) ++ digits
  else directive.filled (before ++ digits)

def signText (directive : Directive) (isNegative : Bool) : Text :=
  if isNegative then "-"
  else if directive.has '+' then "+"
  else if directive.has ' ' then " " else ""

/-- Digits of a number, at least as many as the precision says; zero has none if that is zero. -/
def digits (directive : Directive) (base number : Nat) : Text :=
  let shown := Text.ofString (String.ofList (Nat.toDigits base number))
  let shown := if number = 0 && directive.precision? = some 0 then [] else shown
  Magnitude.zeros (directive.precision?.getD 0 - shown.length) ++ shown

def upper (text : Text) : Text :=
  text.map fun glyph => match glyph with
    | .char letter => .char letter.toUpper
    | other => other

def writeInteger (directive : Directive) (value : Int) : Text :=
  let zeroFills := directive.precision?.isNone
  let bits := (value.emod 0x10000000000000000).toNat
  let plain (base : Nat) (mark : Text) : Text :=
    let digits := directive.digits base bits
    directive.filledNumber zeroFills (if directive.has '#' && bits ≠ 0 then mark else []) digits
  match directive.mark with
  | 'o' =>
    let digits := directive.digits 8 bits
    let marked := if directive.has '#' && digits.head? ≠ some (.char '0') then
      .char '0' :: digits else digits
    directive.filledNumber zeroFills [] marked
  | 'x' => plain 16 "0x"
  | 'X' => upper (plain 16 "0x")
  | 'u' => directive.filledNumber zeroFills [] (directive.digits 10 bits)
  | _ => directive.filledNumber zeroFills (directive.signText (value < 0))
      (directive.digits 10 value.natAbs)

def writeAmount (directive : Directive) (amount : Amount) : Text :=
  let places := directive.precision?.getD 6
  let sign := directive.signText amount.isNegative
  let written := match amount with
    | .finite _ magnitude =>
      let digits := match directive.mark.toLower with
        | 'f' => magnitude.fixed places (directive.has '#')
        | 'e' => magnitude.scientific places (directive.has '#')
        | _ => magnitude.general places (directive.has '#')
      directive.filledNumber true sign digits
    | .infinite _ => directive.filled (sign ++ "inf")
    | .undefined _ => directive.filled (sign ++ "nan")
  if directive.mark.isUpper then upper written else written

end Directive

/-! ### Arguments as numbers -/

def integerBounds (isSigned : Bool) : Int × Int :=
  if isSigned then (-0x8000000000000000, 0x7FFFFFFFFFFFFFFF)
  else (-0xFFFFFFFFFFFFFFFF, 0xFFFFFFFFFFFFFFFF)

def quotedByte? (argument : Text) : Option Nat :=
  match argument with
  | mark :: glyph :: _ =>
    if mark = .char '"' || mark = .char '\x27' then
      ((Utf8.encodeGlyph glyph).head?).map UInt8.toNat
    else none
  | _ => none

def integerOf (isSigned : Bool) (argument : Text) : Int × Bool :=
  match quotedByte? argument with
  | some byte => (byte, true)
  | none =>
    let (sign, unsigned) := Numeral.sign (argument.dropWhile Numeral.isSpace)
    let (number, rest) := Numeral.leadingMarked unsigned
    let value := sign * Int.ofNat number
    let (low, high) := integerBounds isSigned
    let hasDigits := unsigned.head?.any fun glyph => (Numeral.digit? 10 glyph).isSome
    (max low (min high value),
      argument.isEmpty || (hasDigits && rest.isEmpty && low ≤ value && value ≤ high))

def amountOf (bits : Nat) (argument : Text) : Amount × Bool :=
  let whole (number : Nat) : Amount := .finite false { numerator := number, denominator := 1 }
  match quotedByte? argument with
  | some byte => (whole byte, true)
  | none => match Amount.leading bits argument with
    | some (amount, rest) => (amount, rest.isEmpty)
    | none => (whole 0, argument.isEmpty)

/-! ### Texts as a script would write them -/

def isPlain (isFirst : Bool) (glyph : Glyph) : Bool :=
  glyph.satisfies fun letter => letter.isAlphanum || "%+,-./:@_\x7b\x7d]".toList.contains letter ||
    (!isFirst && (letter = '#' || letter = '~'))

def isPlainWord (text : Text) : Bool :=
  match text with
  | [] | [.char '\x7b'] | [.char '\x7d'] => false
  | first :: rest => isPlain true first && rest.all (isPlain false)

def codedGlyph? (glyph : Glyph) : Option Text :=
  let octal (byte : Nat) : Text :=
    .char '\\' :: (Nat.toDigits 8 (0o1000 + byte)).tail.map Glyph.char
  match glyph with
  | .char '\x07' => some "\\a"
  | .char '\x08' => some "\\b"
  | .char '\t' => some "\\t"
  | .char '\n' => some "\\n"
  | .char '\x0b' => some "\\v"
  | .char '\x0c' => some "\\f"
  | .char '\r' => some "\\r"
  | .char letter =>
    if letter.toNat < 0x20 || letter.toNat = 0x7F then some (octal letter.toNat) else none
  | .stray byte => some (octal byte.toNat)
  | .half _ => none

/-- Quoted glyphs, where `isCoded` tells whether those before are between dollar and quotes. -/
def quotedFrom : (isCoded : Bool) → Text → Text
  | _, [] => "\x27"
  | isCoded, glyph :: rest => match codedGlyph? glyph with
    | some coded =>
      (if isCoded then coded else "\x27$\x27" ++ coded) ++ quotedFrom true rest
    | none =>
      let shown : Text := if glyph = .char '\x27' then "\x27\\\x27\x27" else [glyph]
      if isCoded then "\x27\x27" ++ shown ++ quotedFrom false rest
      else shown ++ quotedFrom false rest

def scriptWord (argument : Text) : Text :=
  let text := Utf8.bytewise (Utf8.encode argument)
  let needsDouble := text.contains (.char '\x27') &&
    text.all fun glyph => (codedGlyph? glyph).isNone &&
      !("\"$\x60\\!".toList.any (Glyph.char · = glyph))
  if isPlainWord text then text
  else if needsDouble then [.char '"'] ++ text ++ [.char '"']
  else .char '\x27' :: quotedFrom false text

/-! ### Following a format -/

structure Printed where
  output : Bytes := []
  arguments : List Text := []
  isSound : Bool := true
  ended? : Option Nat := none

abbrev Printing (α : Type) := StateM Printed α

def put (bytes : Bytes) : Printing Unit :=
  modify fun printed => { printed with output := printed.output ++ bytes }

def nextArgument : Printing Text := do
  let printed ← get
  set { printed with arguments := printed.arguments.drop 1 }
  return printed.arguments.headD []

def demandSound (isSound : Bool) : Printing Unit :=
  modify fun printed => { printed with isSound := printed.isSound && isSound }

def endWith (code : Nat) : Printing Unit :=
  modify fun printed => { printed with ended? := some code }

def formatNumber (format : Text) : Printing (Option Int × Text) := do
  match format with
  | .char '*' :: rest =>
    let (value, isSound) := integerOf true (← nextArgument)
    demandSound isSound
    return (some value, rest)
  | _ =>
    let (digits, rest) := Numeral.leadingDigits 10 format
    return (if digits.isEmpty then none else some (Int.ofNat (Numeral.ofText 10 digits)), rest)

/-- The directive that starts behind a percent sign, and the rest of the format. -/
def readDirective (rule : FormatRule) (format : Text) : Printing (Option (Directive × Text)) := do
  let (flags, rest) := format.spanUntil fun glyph => !glyph.satisfies ("-+ #0".toList.contains ·)
  let (width?, rest) ← formatNumber rest
  let (precision?, rest) ← match rest with
    | .char '.' :: places => do
      let (number?, rest) ← formatNumber places
      pure (some (number?.getD 0), rest)
    | _ => pure (none, rest)
  let rest := rest.dropWhile fun glyph => glyph.satisfies (rule.sizeMarks.toList.contains ·)
  match rest with
  | .char mark :: behind =>
    let width := width?.getD 0
    let flags := flags.filterMap Glyph.char?
    return some ({
      flags := if width < 0 then '-' :: flags else flags
      width := width.natAbs
      precision? := (precision?.filter (0 ≤ ·)).map Int.toNat
      mark }, behind)
  | _ => return none

def follow (rule : FormatRule) (directive : Directive) : Printing Bool := do
  let putText (text : Text) : Printing Unit := put (Utf8.encode (directive.filled text))
  let bytewise (text : Text) : Text := Utf8.bytewise (Utf8.encode text)
  match directive.mark with
  | 's' => putText (directive.cut (bytewise (← nextArgument)))
  | 'c' => putText (((bytewise (← nextArgument)).head?.getD (.char '\x00')) :: [])
  | 'b' =>
    let (bytes, isStopped) := rule.text.apply (← nextArgument)
    putText (directive.cut (Utf8.bytewise bytes))
    if isStopped then endWith 0
  | 'd' | 'i' | 'u' | 'o' | 'x' | 'X' =>
    let isSigned := directive.mark = 'd' || directive.mark = 'i'
    let (value, isSound) := integerOf isSigned (← nextArgument)
    demandSound isSound
    put (Utf8.encode (directive.writeInteger value))
  | 'f' | 'F' | 'e' | 'E' | 'g' | 'G' =>
    let (amount, isSound) := amountOf rule.bits (← nextArgument)
    demandSound isSound
    put (Utf8.encode (directive.writeAmount amount))
  | 'q' =>
    if rule.quotes then putText (scriptWord (← nextArgument)) else return false
  | _ => return false
  return true

def formatOnce (rule : FormatRule) : (fuel : Nat) → (format : Text) → Printing Unit
  | 0, _ | _, [] => return
  | fuel + 1, .char '%' :: .char '%' :: rest => do
    put [0x25]
    formatOnce rule fuel rest
  | fuel + 1, .char '%' :: rest => do
    match ← readDirective rule rest with
    | none => endWith rule.failure
    | some (directive, behind) =>
      if !(← follow rule directive) then endWith rule.failure
      else if (← get).ended?.isNone then formatOnce rule fuel behind
  | fuel + 1, glyph :: rest =>
    match rule.format.step glyph rest with
    | (.stop, _) => endWith 0
    | (.bytes bytes, covered) => do
      put bytes
      formatOnce rule fuel (rest.drop covered)

def formatAll (rule : FormatRule) (format : Text) : (fuel : Nat) → Printing Unit
  | 0 => return
  | fuel + 1 => do
    let before := (← get).arguments.length
    formatOnce rule (format.length + 1) format
    let printed ← get
    let left := printed.arguments.length
    if printed.ended?.isNone && left ≠ 0 && left < before then formatAll rule format fuel

def printf (rule : FormatRule) : List Text → Nat × Bytes
  | [] => (rule.failure, [])
  | format :: arguments =>
    let ((), printed) := (formatAll rule format (arguments.length + 1)).run { arguments }
    let code := printed.ended?.getD 0
    (if code = 0 && !printed.isSound then 1 else code, printed.output)

def printfProgram : Tool := fun call =>
  let operands := if call.arguments.head? = some (Text.ofString "--") then call.arguments.drop 1
    else call.arguments
  let (code, output) := printf .program operands
  call.answer code output

end Tool

end GenWalk.Machine
