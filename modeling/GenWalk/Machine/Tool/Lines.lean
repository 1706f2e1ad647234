import GenWalk.Machine.Tool.Basic

/-!
Programs that read lines and put them out again: all of them, the first or the last, numbered,
counted, turned round or side by side.
-/

namespace GenWalk.Machine.Tool

/-! ### All lines -/

def visibleByte (tabs : Bool) (byte : Nat) : Text :=
  let lower (byte : Nat) : Text :=
    if byte = 0x7F then "^?"
    else if byte < 0x20 then [.char '^', .char (Char.ofNat (byte + 0x40))]
    else [.char (Char.ofNat byte)]
  if byte = 0x09 && !tabs then [.char '\t']
  else if byte < 0x80 then lower byte else "M-" ++ lower (byte - 0x80)

def paddedLeft (width : Nat) (text : Text) : Text :=
  List.replicate (width - text.length) (.char ' ') ++ text

def pieces (text : Text) : List Text :=
  let parts := Text.splitOn (.char '\n') text
  (parts.dropLast.map (· ++ [.char '\n'])) ++
    (if parts.getLast? = some [] then [] else parts.getLast?.toList)

def decorated (options : Options) (text : Text) : Text :=
  let visible := options.has 'v' || options.has 'A' || options.has 'e' || options.has 't'
  let ends := options.has 'E' || options.has 'A' || options.has 'e'
  let tabs := options.has 'T' || options.has 'A' || options.has 't'
  let show1 (glyph : Glyph) : Text := match glyph with
    | .char '\n' => if ends then "$\n" else "\n"
    | .char character =>
      if visible || (tabs && character = '\t') then visibleByte tabs character.toNat else [glyph]
    | .stray byte => if visible then visibleByte tabs byte.toNat else [glyph]
    | .half _ => [glyph]
  let lines := pieces text
  let lines := if !options.has 's' then lines
    else lines.zipIdx.filterMap fun (line, position) =>
      if line = [.char '\n'] && position ≠ 0 && lines[position - 1]? = some line then none
      else some line
  let step (state : Nat × List Text) (line : Text) : Nat × List Text :=
    let (number, done) := state
    let shown := line.flatMap show1
    if (options.has 'n' && !options.has 'b') || (options.has 'b' && line ≠ [.char '\n']) then
      (number + 1, (paddedLeft 6 (Text.ofNat number) ++ .char '\t' :: shown) :: done)
    else (number, shown :: done)
  (lines.foldl step (1, [])).2.reverse.flatten

def concatenate : Tool :=
  withOptions { letters := "AbeEnstTuv", long := [("number", 'n'), ("show-all", 'A')] } 1
    fun options => overFiles "cat" 1 options.operands fun files =>
      let bytes := files.flatMap Prod.snd
      (0, if options.given.isEmpty then bytes
        else Utf8.encode (decorated options (Utf8.bytewise bytes)))

def tee : Tool :=
  withOptions { letters := "ai", long := [("append", 'a')] } 1 fun options call =>
    let outcome := options.operands.foldl (fun (outcome : ToolOutcome) path =>
      match outcome.machine.openForWriting path with
      | .ok (location, opened) => { outcome with
          machine := opened.alterFile location fun old =>
            if options.has 'a' then old ++ call.input else call.input }
      | .error fault => { outcome with
          code := 1, complaints := outcome.complaints ++ fileComplaint "tee" path fault })
      (call.answer 0 call.input)
    { outcome with readsInput := true }

/-! ### The first and the last -/

def size? (text : Text) : Option Nat := do
  let (digits, rest) := Numeral.leadingDigits 10 text
  let number ← Numeral.decimal? digits
  match rest with
  | [] => return number
  | [.char 'b'] => return number * 512
  | [.char 'k'] | [.char 'K'] => return number * 1024
  | [.char 'm'] | [.char 'M'] => return number * 1048576
  | _ => none

structure Extent where
  ofBytes : Bool := false
  sign? : Option Char := none
  count : Nat := 10

def Extent.ofText? (ofBytes : Bool) (text : Text) : Option Extent :=
  match text with
  | .char '-' :: rest => (size? rest).map fun count => { ofBytes, sign? := some '-', count }
  | .char '+' :: rest => (size? rest).map fun count => { ofBytes, sign? := some '+', count }
  | _ => (size? text).map fun count => { ofBytes, count }

def Extent.units (extent : Extent) (bytes : Bytes) : List Text :=
  let text := Utf8.bytewise bytes
  if extent.ofBytes then text.map ([·]) else pieces text

def Extent.first (extent : Extent) (bytes : Bytes) : Bytes :=
  let units := extent.units bytes
  let size := if extent.sign? = some '-' then units.length - extent.count else extent.count
  Utf8.encode (units.take size).flatten

def Extent.last (extent : Extent) (bytes : Bytes) : Bytes :=
  let units := extent.units bytes
  let skipped := if extent.sign? = some '+' then extent.count - 1 else units.length - extent.count
  Utf8.encode (units.drop skipped).flatten

def withNewForm (marks : List Char) (arguments : List Text) : List Text :=
  match arguments with
  | (.char mark :: digits) :: rest =>
    if marks.contains mark && (Numeral.decimal? digits).isSome then
      Text.ofString "-n" :: (if mark = '+' then .char '+' :: digits else digits) :: rest
    else arguments
  | _ => arguments

def headed (always never : Bool) (files : List (Text × Bytes)) (act : Bytes → Bytes) : Bytes :=
  if never || (files.length ≤ 1 && !always) then files.flatMap fun file => act file.2
  else
    let blocks := files.map fun (name, bytes) =>
      let shown : Text := if name = Text.ofString "-" then "standard input" else name
      line ("==> " ++ shown ++ " <==") ++ act bytes
    List.intercalate [0x0A] blocks

def reading (program : String) : Report where
  program
  before := "cannot open \x27"
  behind := "\x27 for reading"

def endOptions : OptionTable where
  letters := "qvzfF"
  valued := "nc"
  long := [("lines", 'n'), ("bytes", 'c'), ("quiet", 'q')]

def endOf (program : String) (marks : List Char) (part : Extent → Bytes → Bytes) : Tool :=
  fun call =>
  withOptions endOptions 1 (fun options =>
    let isExtent (entry : Char × Text) : Bool := entry.1 = 'n' || entry.1 = 'c'
    let wanted? := match options.given.reverse.find? isExtent with
      | some (letter, value) => Extent.ofText? (letter = 'c') value
      | none => some {}
    match wanted? with
    | none => fun call => call.answer 1 []
    | some extent => overFiles (reading program) 1 options.operands fun files =>
        (0, headed (options.has 'v') (options.has 'q') files (part extent)))
    { call with arguments := withNewForm marks call.arguments }

def head : Tool := endOf "head" ['-'] Extent.first

def tail : Tool := endOf "tail" ['-', '+'] Extent.last

/-! ### Counting -/

structure Count where
  lines : Nat := 0
  words : Nat := 0
  bytes : Nat := 0
  longest : Nat := 0

def Count.ofBytes (bytes : Bytes) : Count where
  lines := bytes.count 0x0A
  words := (((Utf8.bytewise bytes).map fun glyph =>
    if Numeral.isSpace glyph then Glyph.char ' ' else glyph) |> Text.splitOn (.char ' ')
    |>.filter (· ≠ [])).length
  bytes := bytes.length
  longest := (byteLines bytes).foldl (fun size line => max size line.length) 0

def Count.add (first second : Count) : Count where
  lines := first.lines + second.lines
  words := first.words + second.words
  bytes := first.bytes + second.bytes
  longest := max first.longest second.longest

def Count.wanted (options : Options) (count : Count) : List Nat :=
  let asked (letter : Char) : Bool := options.has letter
  let isPlain := !("lwcmL".toList.any asked)
  (if isPlain || asked 'l' then [count.lines] else []) ++
    (if isPlain || asked 'w' then [count.words] else []) ++
    (if asked 'm' then [count.bytes] else []) ++
    (if isPlain || asked 'c' then [count.bytes] else []) ++
    if asked 'L' then [count.longest] else []

def countOptions : OptionTable where
  letters := "lwcmL"
  long := [("lines", 'l'), ("words", 'w'), ("bytes", 'c'), ("chars", 'm')]

/-- How wide the numbers are: as wide as the bytes of all files together need, and at least seven if
something is no file. -/
def countWidth (call : Call) (names : List Text) : Nat :=
  let size? (name : Text) : Option Nat :=
    if name = Text.ofString "-" then if call.readsFile then some call.input.length else none
    else (call.machine.content name).toOption.map List.length
  let isOther (name : Text) : Bool :=
    if name = Text.ofString "-" then !call.readsFile
    else (call.machine.kind true name).toOption = some .directory
  let total := (names.filterMap size?).foldl (· + ·) 0
  max (toString total).length (if names.any isOther then 7 else 1)

def wordCount : Tool :=
  withOptions countOptions 1 fun options call =>
    let isNamed := !options.operands.isEmpty
    let named := contents call (if isNamed then options.operands else ["-"])
    let isDirectory (name : Text) : Bool :=
      (call.machine.kind true name).toOption = some .directory
    let counts := named.filterMap fun (name, content) => match content with
      | .ok bytes => some (name, Count.ofBytes bytes)
      | .error _ => if isDirectory name then some (name, {}) else none
    let total := counts.foldl (fun sum entry => sum.add entry.2) {}
    let one := ((total.wanted options).length = 1) && named.length = 1
    let width := if one then 1 else countWidth call (named.map Prod.fst)
    let row (count : Count) (name : Text) : Bytes :=
      let numbers := (count.wanted options).map fun number => paddedLeft width (Text.ofNat number)
      line (Text.join " " numbers ++ (if name.isEmpty then [] else .char ' ' :: name))
    let rows := counts.flatMap fun (name, count) => row count (if isNamed then name else [])
    { code := if named.all fun entry => entry.2.toBool then 0 else 1
      output := rows ++ if 1 < named.length then row total "total" else []
      complaints := named.flatMap fun (name, content) => match content with
        | .ok _ => []
        | .error fault => fileComplaint "wc" name fault
      readsInput := named.any fun entry => entry.1 = Text.ofString "-"
      machine := call.machine }

/-! ### Other arrangements -/

def reversedLines : Tool :=
  withOptions {} 1 fun options => overFiles "tac" 1 options.operands fun files =>
    (0, files.flatMap fun file =>
      Utf8.encode (pieces (Utf8.bytewise file.2)).reverse.flatten)

def turnedLines : Tool :=
  withOptions {} 1 fun options => overFiles "rev" 1 options.operands fun files =>
    (0, files.flatMap fun file =>
      Utf8.encode ((pieces (Utf8.bytewise file.2)).flatMap fun piece =>
        if piece.getLast? = some (.char '\n') then piece.dropLast.reverse ++ [.char '\n']
        else piece.reverse))

def numberLines : Tool :=
  withOptions { valued := "bsw" } 1 fun options => overFiles "nl" 1 options.operands fun files =>
    let all := options.value? 'b' = some (Text.ofString "a")
    let separator := (options.value? 's').getD "\t"
    let width := ((options.value? 'w').bind Numeral.decimal?).getD 6
    let step (state : Nat × List Text) (line : Text) : Nat × List Text :=
      let (number, done) := state
      if all || !line.isEmpty then
        (number + 1, (paddedLeft width (Text.ofNat number) ++ separator ++ line) :: done)
      else (number, (List.replicate (width + separator.length) (.char ' ') ++ line) :: done)
    (0, unlines ((allLines files).foldl step (1, [])).2.reverse)

def paste : Tool :=
  withOptions { letters := "s", valued := "d", long := [("serial", 's'), ("delimiters", 'd')] } 1
    fun options => overFiles "paste" 1 options.operands fun files =>
      let marks := ((scan markStep ((options.value? 'd').getD "\t")).filter (· ≠ []))
      let mark (position : Nat) : Text := marks.getD (position % max 1 marks.length) []
      let joined (parts : List Text) : Text :=
        parts.zipIdx.flatMap fun (part, position) =>
          if position = 0 then part else mark (position - 1) ++ part
      let columns := files.map fun file => byteLines file.2
      if options.has 's' then (0, unlines (columns.map joined))
      else
        let height := columns.foldl (fun size column => max size column.length) 0
        (0, unlines ((List.range height).map fun row =>
          joined (columns.map fun column => column.getD row [])))
where
  markStep (glyph : Glyph) (rest : Text) : Text × Nat :=
    match glyph, rest with
    | .char '\\', .char 'n' :: _ => ("\n", 1)
    | .char '\\', .char 't' :: _ => ("\t", 1)
    | .char '\\', .char '\\' :: _ => ("\\", 1)
    | .char '\\', .char '0' :: _ => ([], 1)
    | _, _ => ([glyph], 0)

end GenWalk.Machine.Tool
