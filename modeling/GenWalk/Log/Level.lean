import GenWalk.Environment

/-!
Levels of log records: numbers, some of which have names. A name that is not known stands for
warnings.
-/

namespace GenWalk

abbrev Level := Int

namespace Level

def debug : Level := 10
def info : Level := 20
def warning : Level := 30
def error : Level := 40
def critical : Level := 50
def unset : Level := 0

def named : List (Text × Level) := [
  ("DEBUG", debug), ("INFO", info), ("WARN", warning), ("WARNING", warning), ("ERROR", error),
  ("CRITICAL", critical), ("FATAL", critical), ("NOTSET", unset)]

def capital : Glyph → Glyph
  | .char 'ı' => .char 'I'
  | .char 'ſ' => .char 'S'
  | .char letter => .char letter.toUpper
  | stray => stray

def ofName (name : Option Text) : Level :=
  ((name.bind fun name => named.lookup (name.map capital))).getD warning

def label (level : Level) : Text :=
  match [debug, info, warning, error, critical].zip
      ["DEBUG", "INFO", "WARNING", "ERROR", "CRITICAL"] |>.lookup level with
  | some name => Text.ofString name
  | none => if level = unset then "NOTSET" else "Level " ++ Text.ofInt level

end Level

structure Verbosity where
  debug : Bool := false
  verbose : Bool := false
  quiet : Bool := false
deriving DecidableEq, Inhabited

namespace Verbosity

def levelVariable : Text := "HELMGEN_LOG_LEVEL"

/-- The name of the level that is wanted: a wish counts more than the environment, and the first of
several wishes counts most. -/
def levelName (wishes : Verbosity) (environment : Environment) : Text :=
  if wishes.debug then "DEBUG"
  else if wishes.verbose then "INFO"
  else if wishes.quiet then "ERROR"
  else (environment.get? levelVariable).getD "WARNING"

end Verbosity

end GenWalk
