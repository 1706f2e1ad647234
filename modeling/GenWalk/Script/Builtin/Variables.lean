import GenWalk.Script.Shell

/-!
Commands of scripts that deal with variables and parameters: handing them on, keeping them, reading
them from a line, and taking options off.
-/

namespace GenWalk.Script.Builtin

def number (text : Text) : Run Nat :=
  match Numeral.decimal? text with
  | some number =>
    if number < 0x80000000 then return number else failWith ("Illegal number: " ++ text)
  | none => failWith ("Illegal number: " ++ text)

def assignment (text : Text) : Text × Option Text :=
  let (name, rest) := text.spanUntil (· == .char '=')
  (name, if rest.isEmpty then none else some (rest.drop 1))

def quoted (text : Text) : Text :=
  let mark := Glyph.char '\x27'
  (mark :: text.flatMap fun glyph =>
    if glyph = mark then [mark, .char '"', mark, .char '"', mark] else [glyph]) ++ [mark]

def listed (lead : Text) (names : List Text) : Run Unit := do
  let shell ← get
  let lines := (Text.sorted names).map fun name =>
    lead ++ name ++ match shell.values.get? name with
      | some value => .char '=' :: quoted value
      | none => []
  set { shell.put 1 (lines.flatMap Machine.Tool.line) with status := 0 }

def forNames (arguments : List Text) (act : Text → Shell → Shell) : Run Unit := do
  for argument in arguments do
    let (name, value?) := assignment argument
    unless Shell.isName name do
      failWith (name ++ ": bad variable name")
    if let some value := value? then assign name value
    modify (act name)
  setStatus 0

def exportAll (arguments : List Text) : Run Unit := do
  match arguments with
  | [] => listed "export " (← get).exported
  | first :: rest =>
    if first = Text.ofString "-p" then listed "export " (← get).exported
    else
      let names := if first = Text.ofString "--" then rest else arguments
      forNames names Shell.exportName

def fixAll (arguments : List Text) : Run Unit := do
  match arguments with
  | [] => listed "readonly " (← get).fixed
  | first :: _ =>
    if first = Text.ofString "-p" then listed "readonly " (← get).fixed
    else forNames arguments fun name shell =>
      { shell with fixed := name :: shell.fixed.filter (· ≠ name) }

def unsetAll (arguments : List Text) : Run Unit := do
  let (flags, names) := arguments.span fun argument => argument.head? = some (.char '-')
  let isFunction := flags.getLast? = some (Text.ofString "-f")
  for name in names do
    if isFunction then
      modify fun shell => { shell with functions := shell.functions.filter (·.1 ≠ name) }
    else
      unless Shell.isName name do failWith (name ++ ": bad variable name")
      if (← get).fixed.contains name then failWith (name ++ ": is read only")
      modify (Shell.unset name)
  setStatus 0

def keepAll (arguments : List Text) : Run Unit := do
  for argument in arguments do
    match (← get).saved? with
    | none => failWith "not in a function"
    | some saved =>
      let (name, value?) := assignment argument
      unless saved.any (·.name = name) do
        modify fun shell => { shell with saved? := some (shell.save name :: saved) }
      if let some value := value? then assign name value
  setStatus 0

def shift (arguments : List Text) : Run Unit := do
  let count ← match arguments with
    | [] => pure 1
    | text :: _ => number text
  let shell ← get
  if shell.parameters.length < count then failWith "can\x27t shift that many"
  set { shell with parameters := shell.parameters.drop count, status := 0 }

/-! ### Rules -/

def ruleNames : List (String × Char) := [
  ("errexit", 'e'), ("noglob", 'f'), ("ignoreeof", 'I'), ("interactive", 'i'), ("monitor", 'm'),
  ("noexec", 'n'), ("stdin", 's'), ("xtrace", 'x'), ("verbose", 'v'), ("vi", 'V'), ("emacs", 'E'),
  ("noclobber", 'C'), ("allexport", 'a'), ("notify", 'b'), ("nounset", 'u')]

def switch (on : Bool) (letter : Char) (shell : Shell) : Shell :=
  let others := shell.rules.filter (· ≠ letter)
  { shell with rules := if on then letter :: others else others }

def showRules (asCommands : Bool) : Run Unit := do
  let shell ← get
  let row (entry : String × Char) : Text :=
    let on := shell.rule entry.2
    if asCommands then "set " ++ (if on then "-o " else "+o " : Text) ++ entry.1
    else
      entry.1 ++ List.replicate (16 - entry.1.length) (Glyph.char ' ') ++
        (if on then "on" else "off" : Text)
  let head : List Text := if asCommands then [] else ["Current option settings"]
  modify fun shell => shell.put 1 ((head ++ ruleNames.map row).flatMap Machine.Tool.line)

def readRules (inCall : Bool) : (fuel : Nat) → List Text → Run (List Char × List Text × Bool)
  | 0, arguments => return ([], arguments, false)
  | _, [] => return ([], [], false)
  | fuel + 1, argument :: rest => do
    match argument with
    | [.char '-'] => return ([], rest, !rest.isEmpty)
    | [.char '-', .char '-'] => return ([], rest, true)
    | .char mark :: letters =>
      if (mark ≠ '-' && mark ≠ '+') || letters.isEmpty then return ([], argument :: rest, true)
      let mut rest := rest
      let mut special := []
      for letter in letters do
        match letter with
        | .char 'o' => match rest with
          | [] => showRules (mark = '+')
          | name :: others =>
            match ruleNames.find? fun entry => Text.ofString entry.1 = name with
            | some entry => modify (switch (mark = '-') entry.2)
            | none => failWith ("Illegal option -o " ++ name)
            rest := others
        | .char known =>
          if inCall && (known = 'c' || known = 'l') then special := known :: special
          else if Shell.ruleLetters.contains known && known ≠ 'c' && known ≠ 'q' && known ≠ 'l' then
            modify (switch (mark = '-') known)
          else failWith ("Illegal option -" ++ ([.char known] : Text))
        | _ => failWith ("Illegal option -" ++ ([letter] : Text))
      let (more, operands, given) ← readRules inCall fuel rest
      return (special ++ more, operands, given)
    | _ => return ([], argument :: rest, true)

def settings (arguments : List Text) : Run Unit := do
  if arguments.isEmpty then listed [] ((← get).values.entries.map Prod.fst)
  else
    let (_, operands, given) ← readRules false arguments.length arguments
    if given then modify fun shell => { shell with parameters := operands }
    setStatus 0

/-! ### Reading a line -/

abbrev Shielded := Glyph × Bool

def inputLine (raw : Bool) : (isShielded : Bool) → Bytes → List (UInt8 × Bool) × Bytes × Bool
  | _, [] => ([], [], false)
  | isShielded, byte :: rest =>
    if !isShielded && byte = 0x0A then ([], rest, true)
    else if !isShielded && !raw && byte = 0x5C then inputLine raw true rest
    else
      let (line, behind, ends) := inputLine raw false rest
      (if (isShielded && byte = 0x0A) || byte = 0 then line else (byte, isShielded) :: line,
        behind, ends)

structure Parting where
  separators : Text

namespace Parting

def isSeparator (parting : Parting) (shielded : Shielded) : Bool :=
  !shielded.2 && parting.separators.contains shielded.1

def isBlank (parting : Parting) (shielded : Shielded) : Bool :=
  parting.isSeparator shielded && Shell.usualSeparators.contains shielded.1

def behindWord (parting : Parting) (line : List Shielded) : List Shielded :=
  let rest := line.dropWhile parting.isBlank
  match rest with
  | first :: others =>
    if parting.isSeparator first then others.dropWhile parting.isBlank else rest
  | [] => []

def remainder (parting : Parting) (line : List Shielded) : List Shielded :=
  let bare (line : List Shielded) : List Shielded :=
    (line.reverse.dropWhile parting.isBlank).reverse
  let line := bare line
  match line.getLast? with
  | some last =>
    let before := bare line.dropLast
    if parting.isSeparator last && !before.any parting.isSeparator then before else line
  | none => []

def words (parting : Parting) : (names : Nat) → List Shielded → List Text
  | 0, _ => []
  | 1, line => [(parting.remainder line).map Prod.fst]
  | names + 1, line =>
    let word := line.takeWhile (!parting.isSeparator ·)
    word.map Prod.fst :: parting.words names (parting.behindWord (line.drop word.length))

end Parting

def read (arguments : List Text) : Run Unit := do
  let flags := arguments.takeWhile fun argument =>
    argument.head? = some (.char '-') && 1 < argument.length
  let hasPrompt := flags.getLast? = some (Text.ofString "-p")
  let isKnown := flags.all fun flag =>
    flag = Text.ofString "-r" || flag = Text.ofString "-p" || flag = Text.ofString "--"
  unless isKnown do failWith ("Illegal option " ++ (flags.headD []))
  let names := arguments.drop (flags.length + if hasPrompt then 1 else 0)
  if names.isEmpty then failWith "arg count"
  if let some name := names.find? fun name => !Shell.isName name then
    failWith (name ++ ": bad variable name")
  let shell ← get
  let (line, rest, ends) := inputLine (flags.contains (Text.ofString "-r")) false shell.input.bytes
  set (shell.withInput rest)
  let glyphs := (Utf8.bytewise (line.map Prod.fst)).zip (line.map Prod.snd)
  let parting : Parting := { separators := shell.separators }
  let words := parting.words names.length (glyphs.dropWhile parting.isBlank)
  for (name, word) in names.zip words do
    assign name (Utf8.decode (Utf8.encode word))
  setStatus (if ends then 0 else 1)

/-! ### Options of a script -/

def nextOption (arguments : List Text) : Run Unit := do
  match arguments with
  | known :: name :: given =>
    let shell ← get
    let words := if given.isEmpty then shell.parameters else given
    let index := (((shell.values.get? "OPTIND").bind Numeral.decimal?).getD 1)
    let cluster := if index ≤ 1 then [] else (words.getD (index - 2) []).drop shell.optionOffset
    let inCluster := shell.optionOffset ≠ 0 && !cluster.isEmpty
    let finishWith (letter : Glyph) (index offset code : Nat) : Run Unit := do
      modify (Shell.set "OPTIND" (Text.ofNat index))
      modify fun shell => { shell with optionOffset := offset }
      assign name [letter]
      setStatus code
    let word := words.getD (index - 1) []
    let startsOption := word.head? = some (.char '-') && 1 < word.length
    if !inCluster && !startsOption then finishWith (.char '?') index 0 1
    else if !inCluster && word = Text.ofString "--" then finishWith (.char '?') (index + 1) 0 1
    else
      let (letters, index, offset) := if inCluster then (cluster, index, shell.optionOffset)
        else (word.drop 1, index + 1, 1)
      let letter := letters.headD (.char '?')
      let isQuiet := known.head? = some (.char ':')
      let place? := if letter = .char ':' then none else known.findIdx? (· = letter)
      let more := letters.drop 1
      match place? with
      | none =>
        if isQuiet then modify (Shell.set "OPTARG" [letter])
        else
          modify fun shell => (shell.unset "OPTARG").put 2
            (Machine.Tool.line ("Illegal option -" ++ [letter]))
        finishWith (.char '?') index (if more.isEmpty then 0 else offset + 1) 0
      | some place =>
        if known[place + 1]? = some (.char ':') then
          if !more.isEmpty then
            modify (Shell.set "OPTARG" more)
            finishWith letter index 0 0
          else match words[index - 1]? with
            | some value =>
              modify (Shell.set "OPTARG" value)
              finishWith letter (index + 1) 0 0
            | none =>
              if isQuiet then
                modify (Shell.set "OPTARG" [letter])
                finishWith (.char ':') index 0 0
              else
                modify fun shell => (shell.unset "OPTARG").put 2
                  (Machine.Tool.line ("No arg for -" ++ [letter] ++ " option"))
                finishWith (.char '?') index 0 0
        else
          modify (Shell.set "OPTARG" [])
          finishWith letter index (if more.isEmpty then 0 else offset + 1) 0
  | _ => failWith "Usage: getopts optstring var [arg...]"

end GenWalk.Script.Builtin
