import GenWalk.Machine.Tool.Escape
import GenWalk.Text.ByteRange

/-!
Programs that work on the single bytes of what they read: replacing, deleting and squeezing them,
and cutting parts out of lines.
-/

namespace GenWalk.Machine.Tool

namespace Characters

inductive Part where
  | bytes (values : List Nat)
  | named (name : String) (values : List Nat)
  | repeated (value : Nat) (count? : Option Nat)
deriving DecidableEq

def leadingByte? : Text → Option (Nat × Text)
  | [] => none
  | .char '\\' :: rest => match rest with
    | [] => some (0x5C, [])
    | glyph :: behind =>
      if (Numeral.digit? 8 glyph).isSome then
        let digits := (Numeral.leadingDigits 8 (rest.take 3)).1
        some (Numeral.ofText 8 digits % 256, rest.drop digits.length)
      else
        let byte := match glyph with
          | .char letter => if letter = 'e' then letter.toNat else
              ((EscapeRule.named.lookup letter).map UInt8.toNat).getD letter.toNat
          | _ => glyph.codePoint % 256
        some (byte, behind)
  | glyph :: rest => some (glyph.codePoint % 256, rest)

def rangeOf (first last : Nat) : List Nat :=
  (List.range (last + 1 - first)).map (first + ·)

def bracketed? (text : Text) : Option (Part × Text) :=
  match text with
  | .char ':' :: rest => do
    let name := rest.takeWhile (· ≠ .char ':')
    let known ← Text.toString? name
    let ranges ← ByteRange.named.lookup known
    if (rest.drop name.length).take 2 ≠ Text.ofString ":]" then none
    return (.named known (ranges.flatMap fun range => rangeOf range.1 range.2),
      rest.drop (name.length + 2))
  | .char '=' :: glyph :: .char '=' :: .char ']' :: rest =>
    some (.bytes [glyph.codePoint % 256], rest)
  | _ => do
    let (byte, rest) ← leadingByte? text
    match rest with
    | .char '*' :: count => do
      let digits := count.takeWhile (· ≠ .char ']')
      if (count.drop digits.length).isEmpty then none
      let base := if digits.head? = some (.char '0') then 8 else 10
      let (number, left) := Numeral.leadingNumber base digits
      if !left.isEmpty then none
      return (.repeated byte (if number = 0 then none else some number),
        count.drop (digits.length + 1))
    | _ => none

def parts : (fuel : Nat) → Text → Option (List Part)
  | 0, _ => none
  | _, [] => some []
  | fuel + 1, text => do
    let inBrackets? := match text with
      | .char '[' :: rest => bracketed? rest
      | _ => none
    match inBrackets? with
    | some (part, rest) => return part :: (← parts fuel rest)
    | none =>
      let (first, rest) ← leadingByte? text
      match rest with
      | .char '-' :: next :: others => do
        let (last, behind) ← leadingByte? (next :: others)
        if last < first then none
        return .bytes (rangeOf first last) :: (← parts fuel behind)
      | _ => return .bytes [first] :: (← parts fuel rest)

def read? (text : Text) : Option (List Part) := parts (text.length + 1) text

/-- The bytes of a set, where a repetition without count fills it up to a size. -/
def expand (size : Nat) (parts : List Part) : List Nat :=
  let fixed := parts.foldl (fun sum part => sum + match part with
    | .bytes values | .named _ values => values.length
    | .repeated _ count? => count?.getD 0) 0
  parts.flatMap fun part => match part with
    | .bytes values | .named _ values => values
    | .repeated value count? => List.replicate (count?.getD (size - fixed)) value

def complement (bytes : List Nat) : List Nat := (List.range 256).filter (!bytes.contains ·)

def filledUp (size : Nat) (bytes : List Nat) : List Nat :=
  match bytes.getLast? with
  | some last => bytes ++ List.replicate (size - bytes.length) last
  | none => []

def replaceByte (pairs : List (Nat × Nat)) (byte : UInt8) : UInt8 :=
  match pairs.reverse.lookup byte.toNat with
  | some value => UInt8.ofNat value
  | none => byte

def squeeze (set : List Nat) : (last? : Option UInt8) → Bytes → Bytes
  | _, [] => []
  | last?, byte :: rest =>
    if last? = some byte && set.contains byte.toNat then squeeze set last? rest
    else byte :: squeeze set (some byte) rest

def pairsOf (truncates : Bool) (first second : List Nat) : List (Nat × Nat) :=
  if truncates then first.zip second else first.zip (filledUp first.length second)

def run (options : Options) : Tool := fun call =>
  let isComplement := options.has 'c' || options.has 'C'
  let setOf (text : Text) (size : Nat) : Option (List Nat) :=
    (read? text).map (expand size)
  let firstSet (text : Text) : Option (List Nat) :=
    (setOf text 0).map fun set => if isComplement then complement set else set
  let answer (bytes : Bytes) : ToolOutcome := { call.answer 0 bytes with readsInput := true }
  let failure := call.answer 1 []
  match options.operands, options.has 'd', options.has 's' with
  | [first], true, false => match firstSet first with
    | some set => answer (call.input.filter (!set.contains ·.toNat))
    | none => failure
  | [first, second], true, true => match firstSet first, setOf second 0 with
    | some set, some squeezed =>
      answer (squeeze squeezed none (call.input.filter (!set.contains ·.toNat)))
    | _, _ => failure
  | [first], false, true => match firstSet first with
    | some set => answer (squeeze set none call.input)
    | none => failure
  | [first, second], false, squeezes => match firstSet first with
    | none => failure
    | some set => match setOf second set.length with
      | none => failure
      | some replacements =>
        if replacements.isEmpty && !options.has 't' then failure
        else
          let pairs := pairsOf (options.has 't') set replacements
          let replaced := call.input.map (replaceByte pairs)
          answer (if squeezes then squeeze replacements none replaced else replaced)
  | _, _, _ => failure

end Characters

def replaceCharacters : Tool :=
  withOptions { letters := "cCdst", permuted := false } 1 fun options =>
    let operands := options.operands.map fun text => Utf8.bytewise (Utf8.encode text)
    Characters.run { options with operands }

/-! ### Cutting -/

namespace Cutting

abbrev Range := Nat × Option Nat

def range? (text : Text) : Option Range :=
  match text.spanUntil (· == .char '-') with
  | ([], _ :: last) => do return (1, some (← Numeral.decimal? last))
  | (first, []) => do
    let number ← Numeral.decimal? first
    return (number, some number)
  | (first, _ :: last) => do
    let number ← Numeral.decimal? first
    if last.isEmpty then return (number, none)
    return (number, some (← Numeral.decimal? last))

def ranges? (text : Text) : Option (List Range) := do
  let ranges ← (Text.splitOn (.char ',') text).mapM range?
  if ranges.any fun range => range.1 = 0 || range.2.any (· < range.1) then none
  return ranges

def wants (isComplement : Bool) (ranges : List Range) (position : Nat) : Bool :=
  (ranges.any fun range => range.1 ≤ position && range.2.all (position ≤ ·)) != isComplement

def select (isComplement : Bool) (ranges : List Range) (parts : List α) : List α :=
  (parts.zipIdx.filter fun (_, position) => wants isComplement ranges (position + 1)).map Prod.fst

def table : OptionTable where
  letters := "snz"
  valued := "bcfdOC"
  long := [("fields", 'f'), ("delimiter", 'd'), ("bytes", 'b'), ("characters", 'c'),
    ("only-delimited", 's'), ("output-delimiter", 'O'), ("complement", 'C')]

def withoutComplement (arguments : List Text) : List Text :=
  arguments.filter (· ≠ Text.ofString "--complement")

def cutLine (options : Options) (isComplement : Bool) (ranges : List Range) (line : Text) :
    Option Text :=
  if options.has 'f' then
    let delimiter := ((options.value? 'd').bind List.head?).getD (.char '\t')
    let fields := Text.splitOn delimiter line
    if fields.length = 1 then if options.has 's' then none else some line
    else
      let separator := (options.value? 'O').getD [delimiter]
      some (Text.join separator (select isComplement ranges fields))
  else some (select isComplement ranges line)

def run (isComplement : Bool) (options : Options) : Tool :=
  let lists := options.values 'b' ++ options.values 'c' ++ options.values 'f'
  match lists.mapM ranges? with
  | some [ranges] => overFiles "cut" 1 options.operands fun files =>
      (0, unlines ((allLines files).filterMap (cutLine options isComplement ranges)))
  | _ => fun call => call.answer 1 []

end Cutting

def cut : Tool := fun call =>
  let plain := Cutting.withoutComplement call.arguments
  withOptions Cutting.table 1 (Cutting.run (plain.length ≠ call.arguments.length))
    { call with arguments := plain }

end GenWalk.Machine.Tool
