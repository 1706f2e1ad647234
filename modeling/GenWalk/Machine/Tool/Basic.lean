import GenWalk.Machine.Files
import GenWalk.Numeral.Leading

/-!
What all small programs of the machine share: how they are called, what comes of them, and how they
read their options. These programs serve to run sessions, and nothing is proved of them.
-/

namespace GenWalk.Machine

structure Call where
  arguments : List Text
  environment : Environment := .empty
  input : Bytes := []
  readsFile : Bool := false
  machine : Machine

/-- What comes of a program that ends by itself. Complaints go their own way. -/
structure ToolOutcome where
  code : Nat := 0
  output : Bytes := []
  complaints : Bytes := []
  readsInput : Bool := false
  machine : Machine

abbrev Tool := Call → ToolOutcome

namespace Call

def answer (call : Call) (code : Nat) (output : Bytes) : ToolOutcome :=
  { code, output, machine := call.machine }

end Call

namespace Tool

def line (text : Text) : Bytes := Utf8.encode (text ++ [.char '\n'])

def complaint (program : String) (text : Text) : Bytes :=
  line (Text.ofString program ++ ": " ++ text)

def fileComplaint (program : String) (file : Text) : Fault → Bytes
  | .system error _ => complaint program (file ++ ": " ++ error.wording)
  | _ => complaint program (file ++ ": " ++ SystemError.invalidArgument.wording)

/-! ### Options -/

structure Options where
  given : List (Char × Text) := []
  operands : List Text := []
deriving Inhabited

/-- The options that a program knows: letters, letters that take a value, and long names for
them. -/
structure OptionTable where
  letters : String := ""
  valued : String := ""
  long : List (String × Char) := []
  permuted : Bool := true

namespace Options

def has (options : Options) (letter : Char) : Bool := options.given.any (·.1 = letter)

def value? (options : Options) (letter : Char) : Option Text :=
  (options.given.reverse.find? (·.1 = letter)).map Prod.snd

def values (options : Options) (letter : Char) : List Text :=
  (options.given.filter (·.1 = letter)).map Prod.snd

/-- Letters in one argument: the first that takes a value takes the rest, or the next argument. The
answer tells whether the next argument is taken. -/
def ofCluster? (table : OptionTable) (next? : Option Text) : Text →
    Option (List (Char × Text) × Bool)
  | [] => some ([], false)
  | .char letter :: rest =>
    if table.valued.toList.contains letter then
      if rest.isEmpty then next?.map fun value => ([(letter, value)], true)
      else some ([(letter, rest)], false)
    else if table.letters.toList.contains letter then
      (ofCluster? table next? rest).map fun (others, taken) => ((letter, []) :: others, taken)
    else none
  | _ => none

def ofLong? (table : OptionTable) (next? : Option Text) (argument : Text) :
    Option (List (Char × Text) × Bool) :=
  let (name, rest) := argument.spanUntil (· == .char '=')
  let exact := table.long.filter fun entry => Text.ofString entry.1 = name
  let found := if exact.isEmpty then table.long.filter fun entry =>
      name.isPrefixOf (Text.ofString entry.1)
    else exact
  match found.map Prod.snd with
  | [] => none
  | letter :: others =>
    if others.any (· ≠ letter) then none
    else if table.valued.toList.contains letter then
      if rest.isEmpty then next?.map fun value => ([(letter, value)], true)
      else some ([(letter, rest.drop 1)], false)
    else if rest.isEmpty then some ([(letter, [])], false)
    else none

def ofArgument? (table : OptionTable) (next? : Option Text) :
    Text → Option (Option (List (Char × Text) × Bool))
  | [.char '-', .char '-'] => none
  | .char '-' :: .char '-' :: name => some (ofLong? table next? name)
  | .char '-' :: letter :: letters => some (ofCluster? table next? (letter :: letters))
  | _ => none

def readAfter? (table : OptionTable) : (taken : Bool) → (arguments : List Text) → Option Options
  | _, [] => some {}
  | true, _ :: rest => readAfter? table false rest
  | false, argument :: rest =>
    if argument = Text.ofString "--" then some { operands := rest }
    else match ofArgument? table rest.head? argument with
      | some none => none
      | some (some (given, taken)) => (readAfter? table taken rest).map fun options =>
          { options with given := given ++ options.given }
      | none =>
        if table.permuted then (readAfter? table false rest).map fun options =>
          { options with operands := argument :: options.operands }
        else some { operands := argument :: rest }

def read? (table : OptionTable) (arguments : List Text) : Option Options :=
  readAfter? table false arguments

end Options

def withOptions (table : OptionTable) (failure : Nat) (act : Options → Tool) : Tool :=
  fun call => match Options.read? table call.arguments with
    | some options => act options call
    | none => call.answer failure []

/-! ### Files -/

def contents (call : Call) (files : List Text) : List (Text × Except Fault Bytes) :=
  files.map fun file =>
    (file, if file = Text.ofString "-" then .ok call.input else call.machine.content file)

structure Report where
  program : String
  before : String := ""
  behind : String := ""

instance : Coe String Report := ⟨fun program => { program }⟩

def Report.complaint (report : Report) (file : Text) (fault : Fault) : Bytes :=
  fileComplaint report.program
    (Text.ofString report.before ++ file ++ Text.ofString report.behind) fault

def overFiles (report : Report) (failure : Nat) (files : List Text)
    (act : List (Text × Bytes) → Nat × Bytes) : Tool := fun call =>
  let named := contents call (if files.isEmpty then ["-"] else files)
  let read := named.filterMap fun (file, content) => content.toOption.map (file, ·)
  let refused := named.flatMap fun (file, content) => match content with
    | .ok _ => []
    | .error fault => report.complaint file fault
  let (code, output) := act read
  { code := if refused.isEmpty then code else failure
    output
    complaints := refused
    readsInput := files.isEmpty || files.contains (Text.ofString "-")
    machine := call.machine }

def failure (program task : String) (file : Text) (fault : Fault) : Bytes :=
  fileComplaint program (Text.ofString task ++ " \x27" ++ file ++ "\x27") fault

def lacksOperand (program : String) (code : Nat) : Tool := fun call =>
  { code
    complaints := complaint program "missing operand" ++
      line ("Try \x27" ++ Text.ofString program ++ " --help\x27 for more information.")
    machine := call.machine }

def forEachOperand (program task : String) (operands : List Text)
    (act : Machine → Text → Except Fault Machine) : Tool := fun call =>
  if operands.isEmpty then lacksOperand program 1 call
  else operands.foldl (fun outcome operand => match act outcome.machine operand with
    | .ok machine => { outcome with machine }
    | .error fault => { outcome with
        code := 1
        complaints := outcome.complaints ++ failure program task operand fault })
    { machine := call.machine }

/-! ### Lines -/

/-- The parts of a text that end with a glyph, without their ends; what stands behind the last end
is a part if it is not empty. -/
def recordsOf (ending : Glyph) (text : Text) : List Text :=
  let parts := Text.splitOn ending text
  if parts.getLast? = some [] then parts.dropLast else parts

def linesOf (text : Text) : List Text := recordsOf (.char '\n') text

def Options.ending (options : Options) : Glyph :=
  .char (if options.has 'z' then '\x00' else '\n')

def byteLines (bytes : Bytes) : List Text := linesOf (Utf8.bytewise bytes)

def unlines (lines : List Text) : Bytes := lines.flatMap line

def allLines (files : List (Text × Bytes)) : List Text := files.flatMap fun file => byteLines file.2

end Tool

end GenWalk.Machine
