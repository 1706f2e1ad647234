import GenWalk.Machine.Tool.Basic

/-!
Programs that make, copy, move and take away files, and those that tell where files are.
-/

namespace GenWalk.Machine.Tool

/-! ### Making and taking away -/

def touch : Tool :=
  withOptions { letters := "acmfh", valued := "dtr", long := [("no-create", 'c')] } 1 fun options =>
    if options.operands.isEmpty then fun call =>
      { code := 1
        complaints := complaint "touch" "missing file operand" ++
          line "Try \x27touch --help\x27 for more information."
        machine := call.machine }
    else forEachOperand "touch" "cannot touch" options.operands fun machine path =>
      if options.has 'c' then .ok machine else machine.touch path

def makeDirectories : Tool :=
  withOptions { letters := "pv", valued := "m", long := [("parents", 'p'), ("mode", 'm')] } 1
    fun options => forEachOperand "mkdir" "cannot create directory" options.operands
      fun machine path => do
        let made ← if options.has 'p' then machine.makeDirectories path
          else machine.makeDirectory path
        match (options.value? 'm').bind fun mode =>
            (mode.mapM (Numeral.digit? 8)).map (Numeral.ofDigits 8) with
        | some mode => made.changeMode mode path
        | none => return made

def removeDirectories : Tool :=
  withOptions { letters := "pv", long := [("parents", 'p')] } 1 fun options =>
    forEachOperand "rmdir" "failed to remove" options.operands fun machine path =>
      let target := Path.ofText path
      let size := target.parts.length
      (List.range (if options.has 'p' then max 1 size else 1)).foldlM (fun current step =>
        current.removeEmptyDirectory (if step = 0 then path
          else ({ target with parts := target.parts.take (size - step) } : Path).toText)) machine

def remove : Tool :=
  withOptions { letters := "rRfdiIv", long := [("recursive", 'r'), ("force", 'f'), ("dir", 'd')] } 1
    fun options => if options.has 'f' && options.operands.isEmpty then fun call => call.answer 0 []
      else forEachOperand "rm" "cannot remove" options.operands fun machine path =>
        let isDeep := options.has 'r' || options.has 'R'
        let removal := if options.has 'd' && !isDeep then match machine.kind false path with
            | .ok .directory => machine.removeEmptyDirectory path
            | _ => machine.remove false path
          else machine.remove isDeep path
        match removal with
        | .error (.system .notFound place) =>
          if options.has 'f' then .ok machine else .error (.system .notFound place)
        | result => result

/-! ### Copying and moving -/

def forTarget (program task : String) (operands : List Text)
    (act : Text → Machine → Text → Except Fault Machine) : Tool := fun call =>
  match operands.getLast?, operands.dropLast with
  | none, _ | _, [] => lacksOperand program 1 call
  | some target, sources =>
    if 1 < sources.length && (call.machine.kind true target).toOption ≠ some .directory then
      { code := 1
        complaints := fileComplaint program ("target \x27" ++ target ++ "\x27")
          (match call.machine.kind true target with
          | .ok _ => .system .notDirectory none
          | .error fault => fault)
        machine := call.machine }
    else forEachOperand program task sources (act target) call

def targetedOperands (options : Options) : List Text :=
  options.operands ++ options.values 't'

def copyOptions : OptionTable where
  letters := "rRapfdLPnvTuH"
  valued := "t"
  long := [("recursive", 'r'), ("archive", 'a'), ("force", 'f'), ("no-clobber", 'n')]

def copy : Tool :=
  withOptions copyOptions 1 fun options =>
    forTarget "cp" "cannot stat" (targetedOperands options)
      fun target machine source =>
        if options.has 'n' && (machine.kind true (machine.within source target)).toBool then
          .ok machine
        else if options.has 'r' || options.has 'R' || options.has 'a' then
          machine.copyTree source target
        else machine.copy source target

def move : Tool :=
  withOptions {
      letters := "fnvTui", valued := "t", long := [("force", 'f'), ("no-clobber", 'n')] } 1
    fun options => forTarget "mv" "cannot stat" (targetedOperands options)
      fun target machine source =>
        if options.has 'n' && (machine.kind true (machine.within source target)).toBool then
          .ok machine
        else machine.move source target

def linkOptions : OptionTable where
  letters := "sfnvTr"
  valued := "t"
  long := [("symbolic", 's'), ("force", 'f'), ("no-dereference", 'n')]

def link : Tool :=
  withOptions linkOptions 1 fun options =>
    let operands := targetedOperands options
    forTarget "ln" "failed to create link"
      (if operands.length = 1 then operands ++ [Text.ofString "."] else operands)
      fun target machine source => do
        let place := if options.has 'n' && (machine.kind false target).toOption = some .link then
          target else machine.within source target
        let cleared ← if options.has 'f' && (machine.kind false place).toBool then
          machine.remove false place else pure machine
        if options.has 's' then cleared.makeLink source place
        else if (cleared.kind false place).toBool then
          throw (.system .alreadyExists (some place))
        else cleared.copy source place

/-! ### Names -/

def baseName (path ending : Text) : Text :=
  let known := Path.ofText path
  if path.isEmpty then []
  else if known.parts.isEmpty then if path.head? = some slash then [slash] else path
  else if known.name = ending then ending
  else known.name.dropEnding ending

def baseNameOptions : OptionTable where
  letters := "az"
  valued := "s"
  long := [("multiple", 'a'), ("suffix", 's')]
  permuted := false

def baseNames : Tool :=
  withOptions baseNameOptions 1 fun options call =>
    let ending := options.value? 's'
    if options.has 'a' || ending.isSome then
      if options.operands.isEmpty then lacksOperand "basename" 1 call
      else call.answer 0 (options.operands.flatMap fun path =>
        line (baseName path (ending.getD [])))
    else match options.operands with
      | [path] => call.answer 0 (line (baseName path []))
      | [path, ending] => call.answer 0 (line (baseName path ending))
      | [] => lacksOperand "basename" 1 call
      | _ => call.answer 1 []

def directoryName (path : Text) : Text :=
  let bare (text : Text) : Text := (text.reverse.dropWhile (· == slash)).reverse
  let before := bare ((bare path).reverse.dropWhile (· ≠ slash)).reverse
  if !before.isEmpty then before else if path.head? = some slash then [slash] else "."

def directoryNames : Tool :=
  withOptions { letters := "z" } 1 fun options call =>
    if options.operands.isEmpty then lacksOperand "dirname" 1 call
    else call.answer 0 (options.operands.flatMap fun path => line (directoryName path))

/-! ### Real paths -/

def realPath (machine : Machine) (mustExist : Bool) (path : Text) : Except Fault Text := do
  if path.isEmpty then throw (.system .notFound (some path))
  let resolved ← Lookup.resolve machine.disk machine.viewer (.ofText path)
  let found ← Lookup.find machine.disk machine.viewer true resolved.toText
  if mustExist && found.entry?.isNone then throw (.system .notFound (some path))
  return resolved.toText

def realPaths (program : String) (mustExist : Bool) (operands : List Text) : Tool := fun call =>
  let paths := operands.map fun path => (path, realPath call.machine mustExist path)
  { code := if operands.isEmpty || paths.any fun path => !path.2.toBool then 1 else 0
    output := paths.flatMap fun path => (path.2.toOption.map line).getD []
    complaints := paths.flatMap fun (path, result) => match result with
      | .ok _ => []
      | .error fault => fileComplaint program path fault
    machine := call.machine }

def readLink : Tool :=
  withOptions { letters := "femnqsv", long := [("canonicalize", 'f')] } 1 fun options call =>
    if options.has 'f' || options.has 'e' || options.has 'm' then
      { realPaths "readlink" (options.has 'e') options.operands call with complaints := [] }
    else
      let targets := options.operands.map fun path => match call.machine.findEntry false path with
        | .ok (_, .link target) => some target
        | _ => none
      let shown (target : Text) : Bytes :=
        if options.has 'n' then Utf8.encode target else line target
      call.answer (if targets.isEmpty || targets.any Option.isNone then 1 else 0)
        ((targets.filterMap id).flatMap shown)

def realPathProgram : Tool :=
  withOptions { letters := "eLmPqsz" } 1 fun options =>
    realPaths "realpath" (options.has 'e') options.operands

def workingDirectory : Tool := fun call =>
  call.answer 0 (line (Lookup.pathTo call.machine.directory).toText)

end GenWalk.Machine.Tool
