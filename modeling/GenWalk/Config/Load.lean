import GenWalk.Config.Search
import GenWalk.Settings
import GenWalk.Yaml.Document

/-!
Reading settings from a configuration file, or taking the usual ones where there is no file.
-/

namespace GenWalk

/-- What is wrong with a configuration. Where a document is malformed, the words in which a parser says
how are left out. -/
inductive ConfigProblem where
  | missing (path : Path)
  | unreadable (path : Path) (fault : Fault)
  | malformed (path : Path)
  | notMapping (path : Path) (kind : String)
  | invalid (path : Path) (issues : List Issue)

namespace ConfigProblem

def message : ConfigProblem → Text
  | missing path => "Config file not found: " ++ path.toText
  | unreadable path fault => "Cannot read " ++ path.toText ++ ": " ++ fault.message
  | malformed path => "Invalid YAML in " ++ path.toText
  | notMapping path kind => "Expected a YAML mapping in " ++ path.toText ++ ", got " ++ kind
  | invalid path issues =>
    let plural := if issues.length = 1 then "" else "s"
    let count := Text.ofNat issues.length ++ " validation error" ++ plural
    Text.join "\n" <| ("Invalid configuration in " ++ path.toText ++ ": " ++ count ++ " for " ++
      Settings.recordName) :: issues.map Issue.report

end ConfigProblem

/-- Why there are no settings. All but a problem of the configuration is beyond what a user of the
settings answers for. -/
inductive ConfigFailure where
  | problem (problem : ConfigProblem)
  | refused (fault : Fault)
  | notUnicode
  | misfit (misfit : Misfit)

namespace Config

def source : Text := "helmgen.core.config.loader"

variable {World : Type}

abbrev Loading (World α : Type) := EStateM ConfigFailure World α

def Loading.ask (query : Query World α) : Loading World α :=
  fun world => match query world with
    | .ok answer after => .ok answer after
    | .error fault after => .error (.refused fault) after

def Loading.note (host : Host World) (level : Level) (message : Text) : Loading World Unit :=
  modify (host.note { level, source, message })

def readBytes (host : Host World) (path : Path) : Loading World Bytes :=
  fun world => match host.content path world with
    | .ok bytes after => .ok bytes after
    | .error fault after =>
      if fault.isSystem then .error (.problem (.unreadable path fault)) after
      else .error (.refused fault) after

def unifyLineEnds : List Char → List Char
  | '\r' :: '\n' :: rest => '\n' :: unifyLineEnds rest
  | '\r' :: rest => '\n' :: unifyLineEnds rest
  | character :: rest => character :: unifyLineEnds rest
  | [] => []

def parse (path : Path) (bytes : Bytes) : Except ConfigFailure Settings := do
  let some text := Utf8.decodeStrict? bytes | throw .notUnicode
  let data ← match Yaml.read (unifyLineEnds (text.filterMap Glyph.char?)) with
    | .ok data => .ok data
    | .error .malformed => .error (.problem (.malformed path))
    | .error (.misfit misfit) => .error (.misfit misfit)
  let entries ← match data with
    | .null => .ok []
    | .map entries => .ok entries
    | other => .error (.problem (.notMapping path other.kindName))
  match Settings.ofFields entries with
  | .ok settings => .ok settings
  | .error issues => .error (.problem (.invalid path issues))

def load (host : Host World) : Option Path → Loading World Settings
  | none => return .usual
  | some path => do
    unless ← Loading.ask (host.isFile path) do throw (.problem (.missing path))
    Loading.note host Level.debug ("Loading settings from " ++ path.toText)
    let bytes ← readBytes host path
    match parse path bytes with
    | .error failure => throw failure
    | .ok settings =>
      Loading.note host Level.info ("Loaded settings from " ++ path.toText ++ " (keyword=" ++
        settings.keyword.quoted ++ ")")
      return settings

def choose (host : Host World) (named : Option Path) (directory : Path) :
    Query World (Option Path) :=
  match named with
  | some path => pure (some path)
  | none => find host directory

end Config

end GenWalk
