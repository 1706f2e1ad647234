import GenWalk.Proofs.Config.Agreement
import GenWalk.Proofs.Machine.Lookup

/-!
What becomes of a configuration file. Loading it gives settings, or a problem that checks and runs
tell, exactly if the question whether the file is there gets its answer and its bytes are Unicode
(`Config.load_settles_iff`).
-/

namespace GenWalk

variable {World : Type} {host : Host World} {path : Path} {world after : World} {fault : Fault}

namespace Config

def characters (text : Text) : List Char := unifyLineEnds (text.filterMap Glyph.char?)

def readingRecord (path : Path) : LogRecord where
  level := Level.debug
  source
  message := "Loading settings from " ++ path.toText

variable {bytes : Bytes}

theorem parse_stray (path : Path) (stray : Utf8.decodeStrict? bytes = none) :
    parse path bytes = .error .notUnicode := by
  simp only [parse, stray]
  rfl

theorem parse_settles (path : Path) {text : Text} (unicode : Utf8.decodeStrict? bytes = some text)
    (fits : ∀ misfit, Yaml.read (characters text) ≠ .error (.misfit misfit)) :
    (∃ settings, parse path bytes = .ok settings) ∨
      ∃ problem, parse path bytes = .error (.problem problem) := by
  unfold characters at fits
  simp only [parse, unicode, bind, Except.bind]
  cases read : Yaml.read (unifyLineEnds (text.filterMap Glyph.char?)) with
  | error cause =>
    cases cause with
    | malformed => exact Or.inr ⟨_, rfl⟩
    | misfit misfit => exact absurd read (fits misfit)
  | ok data =>
    cases data with
    | null =>
      cases Settings.ofFields [] with
      | ok settings => exact Or.inl ⟨settings, rfl⟩
      | error issues => exact Or.inr ⟨_, rfl⟩
    | map entries =>
      simp only
      cases Settings.ofFields entries with
      | ok settings => exact Or.inl ⟨settings, rfl⟩
      | error issues => exact Or.inr ⟨_, rfl⟩
    | _ => exact Or.inr ⟨_, rfl⟩

theorem load_untold (refused : host.isFile path world = .error fault after) :
    load host (some path) world = .error (.refused fault) after := by
  simp only [load, bind, EStateM.bind, Loading.ask, refused]

theorem load_missing (absent : host.isFile path world = .ok false after) :
    load host (some path) world = .error (.problem (.missing path)) after := by
  simp only [load, bind, EStateM.bind, Loading.ask, absent]
  rfl

theorem load_present (present : host.isFile path world = .ok true after) :
    load host (some path) world =
      match readBytes host path (host.note (readingRecord path) after) with
      | .error failure later => .error failure later
      | .ok bytes later => match parse path bytes with
        | .error failure => .error failure later
        | .ok settings => .ok settings (host.note {
            level := Level.info
            source
            message := "Loaded settings from " ++ path.toText ++ " (keyword=" ++
              settings.keyword.quoted ++ ")" } later) := by
  have noted (level : Level) (message : Text) (world : World) :
      Loading.note host level message world = .ok () (host.note { level, source, message } world) :=
    rfl
  simp only [load, bind, EStateM.bind, Loading.ask, present, if_true, noted, readingRecord]
  cases readBytes host path _ with
  | error failure later => rfl
  | ok bytes later =>
    simp only
    cases parse path bytes with
    | error failure => rfl
    | ok settings => rfl

/-- It can be told whether the file is there, and what is read from it is Unicode. -/
structure Legible (host : Host World) (path : Path) (world : World) : Prop where
  told : ∀ fault after, host.isFile path world ≠ .error fault after
  unicode : ∀ tested bytes after, host.isFile path world = .ok true tested →
    host.content path (host.note (readingRecord path) tested) = .ok bytes after →
    Utf8.decodeStrict? bytes ≠ none

/-- The document that is read from the file, if one is, has no misfit in it. -/
def Fitting (host : Host World) (path : Path) (world : World) : Prop :=
  ∀ tested bytes after text, host.isFile path world = .ok true tested →
    host.content path (host.note (readingRecord path) tested) = .ok bytes after →
    Utf8.decodeStrict? bytes = some text →
    ∀ misfit, Yaml.read (characters text) ≠ .error (.misfit misfit)

/-- A file that is there is refused, if it is, by the system itself. -/
def SystemRefuses (host : Host World) (path : Path) (world : World) : Prop :=
  ∀ tested fault after, host.isFile path world = .ok true tested →
    host.content path (host.note (readingRecord path) tested) = .error fault after → fault.isSystem

theorem load_of_legible (refuses : SystemRefuses host path world)
    (fitting : Fitting host path world) (legible : Legible host path world) :
    (∃ settings after, load host (some path) world = .ok settings after) ∨
      ∃ problem after, load host (some path) world = .error (.problem problem) after := by
  cases tested : host.isFile path world with
  | error fault after => exact absurd tested (legible.told fault after)
  | ok isFile after =>
    cases isFile with
    | false => exact Or.inr ⟨_, after, load_missing tested⟩
    | true =>
      rw [load_present tested]
      simp only [readBytes]
      cases asked : host.content path (host.note (readingRecord path) after) with
      | error fault later =>
        simp only [refuses _ _ _ tested asked, if_true]
        exact Or.inr ⟨_, later, rfl⟩
      | ok bytes later =>
        obtain ⟨text, unicode⟩ := Option.ne_none_iff_exists'.1 (legible.unicode _ _ _ tested asked)
        simp only
        rcases parse_settles path unicode (fitting _ _ _ _ tested asked unicode) with
          ⟨settings, parsed⟩ | ⟨problem, parsed⟩
        · rw [parsed]
          exact Or.inl ⟨settings, _, rfl⟩
        · rw [parsed]
          exact Or.inr ⟨problem, later, rfl⟩

theorem load_of_illegible (illegible : ¬Legible host path world) :
    (∃ fault after, load host (some path) world = .error (.refused fault) after) ∨
      ∃ after, load host (some path) world = .error .notUnicode after := by
  cases tested : host.isFile path world with
  | error fault after => exact Or.inl ⟨fault, after, load_untold tested⟩
  | ok isFile after =>
    have told : ∀ fault later, host.isFile path world ≠ .error fault later := by
      rw [tested]
      nofun
    have stray : ∃ bytes later, isFile = true ∧
        host.content path (host.note (readingRecord path) after) = .ok bytes later ∧
        Utf8.decodeStrict? bytes = none := by
      by_contra unlike
      refine illegible ⟨told, fun other bytes later again asked stray => unlike ?_⟩
      rw [tested] at again
      cases again
      exact ⟨bytes, later, rfl, asked, stray⟩
    obtain ⟨bytes, later, rfl, asked, stray⟩ := stray
    rw [load_present tested]
    simp only [readBytes, asked, parse_stray path stray]
    exact Or.inr ⟨later, rfl⟩

end Config

theorem ConfigCheck.run_of_problem {problem : ConfigProblem}
    (failed : Config.load host (some path) world = .error (.problem problem) after)
    (directory : Path) :
    run host (some path) directory world =
      .ok { path? := some path, outcome := .error problem } after := by
  have located : Config.Loading.ask (Config.choose host (some path) directory) world =
      .ok (some path) world := rfl
  simp only [run, bind, EStateM.bind, located, failed]

namespace Config

/-- Loading a file ends with settings that the rules accept, or with a problem that a check tells
and a run answers with, exactly if it can be told whether the file is there and what is read from it
is Unicode. -/
theorem load_settles_iff (refuses : SystemRefuses host path world) (fitting : Fitting host path world) :
    ((∃ settings after, load host (some path) world = .ok settings after ∧
        Keyword.problem? settings.keyword = none ∧
        SkipPrefixes.Acceptable settings.skipPrefixes) ∨
      ∃ problem after, load host (some path) world = .error (.problem problem) after ∧
        (∀ directory, ∃ check, ConfigCheck.run host (some path) directory world = .ok check after ∧
          check.isValid = false ∧ check.errors = [problem.message]) ∧
        ∀ (adapter : Adapter World) (request : GenerateRequest), request.config = some path →
          ∃ result, Generate.run host adapter request world = .ok result after ∧
            result.walk? = none ∧ result.error? = some problem.message) ↔
      Legible host path world := by
  constructor
  · intro settled
    by_contra illegible
    rcases load_of_illegible illegible with ⟨fault, later, escaped⟩ | ⟨later, escaped⟩ <;>
      rcases settled with ⟨_, _, loaded, _⟩ | ⟨_, _, loaded, _⟩ <;>
        exact nomatch escaped.symm.trans loaded
  · intro legible
    rcases load_of_legible refuses fitting legible with
      ⟨settings, after, loaded⟩ | ⟨problem, after, loaded⟩
    · exact Or.inl ⟨settings, after, loaded, settings.keyword_accepted,
        settings.skipPrefixes_accepted⟩
    · refine Or.inr ⟨problem, after, loaded, fun directory => ?_, fun adapter request named => ?_⟩
      · exact ⟨_, ConfigCheck.run_of_problem loaded directory, rfl, rfl⟩
      · have checked := ConfigCheck.run_of_problem loaded (Path.ofText request.directory)
        rw [← named] at checked
        exact ⟨_, Generate.run_of_checked checked, rfl, rfl⟩

end Config

theorem Machine.carried_of_isFile {machine tested : Machine}
    (present : Machine.host.isFile path machine = .ok true tested) : path.toText.Carried := by
  have told : ((Machine.host.target path).answer machine) = .ok .file := by
    rw [← toldOf_eq_true, ← Query.answer_leadsTo, ← Host.isFile, Query.answer, present]
  simp only [Machine.host, Machine.answer_look, Machine.kind] at told
  cases looked : machine.findEntry true path.toText with
  | ok found => exact Lookup.carried_of_find (Lookup.find_of_findEntry looked)
  | error fault =>
    rw [looked] at told
    cases told

theorem Machine.refuses_numbered (path : Path) (machine : Machine) :
    Config.SystemRefuses Machine.host path machine := by
  intro tested fault after present refused
  have carried := Machine.carried_of_isFile present
  simp only [Machine.host, Machine.look] at refused
  split at refused
  next => cases refused
  next denied =>
    cases refused
    simp only [Machine.content, bind, Except.bind, pure, Except.pure] at denied
    split at denied
    next looked =>
      cases denied
      exact Lookup.isSystem_of_findEntry_refused carried looked
    next =>
      split at denied
      next => cases denied; rfl
      next =>
        simp only [Machine.demand] at denied
        split at denied
        next closed =>
          split at closed
          next => cases closed
          next =>
            cases closed
            cases denied
            rfl
        next => cases denied

namespace Config

def configured (bytes : Bytes) : Machine where
  disk := ⟨[(["c"], .file Entry.usualFileMode (.bytes bytes))]⟩

theorem configured_present (bytes : Bytes) :
    Machine.host.isFile "c" (configured bytes) = .ok true (configured bytes) := by
  cbv

theorem configured_content (bytes : Bytes) :
    Machine.host.content "c" (Machine.host.note (readingRecord "c") (configured bytes)) =
      .ok bytes (configured bytes) := by
  cbv

theorem unclosed_told :
    let machine := configured (Utf8.encode "k: [")
    SystemRefuses Machine.host "c" machine ∧ Fitting Machine.host "c" machine ∧
      Legible Machine.host "c" machine ∧
      ∃ problem after, load Machine.host (some "c") machine = .error (.problem problem) after ∧
        ∃ check, ConfigCheck.run Machine.host (some "c") "." machine = .ok check after ∧
          check.errors = ["Invalid YAML in c"] := by
  intro machine
  have decoded : Utf8.decodeStrict? (Utf8.encode "k: [") = some "k: [" := by cbv
  have malformed : Yaml.read (characters "k: [") = .error .malformed := by cbv
  have fitting : Fitting Machine.host "c" machine := by
    intro tested bytes after text present asked unicode misfit read
    cases (configured_present _).symm.trans present
    cases (configured_content _).symm.trans asked
    obtain rfl := Option.some.inj (decoded.symm.trans unicode)
    cases malformed.symm.trans read
  have legible : Legible Machine.host "c" machine := by
    constructor
    · intro fault after untold
      cases (configured_present _).symm.trans untold
    · intro tested bytes after present asked stray
      cases (configured_present _).symm.trans present
      cases (configured_content _).symm.trans asked
      cases decoded.symm.trans stray
  have refuses := Machine.refuses_numbered "c" machine
  refine ⟨refuses, fitting, legible, ?_⟩
  have loaded : load Machine.host (some "c") machine = .error (.problem (.malformed "c")) machine :=
    by cbv
  rcases (load_settles_iff refuses fitting).2 legible with
    ⟨settings, after, settled, _⟩ | ⟨problem, after, failed, told, _⟩
  · cases loaded.symm.trans settled
  · obtain ⟨check, checked, _, errors⟩ := told "."
    cases loaded.symm.trans failed
    exact ⟨_, _, failed, check, checked, errors.trans (by decide)⟩

/-- A file with a stray byte gives neither settings nor a problem. -/
theorem stray_byte_untold :
    let machine := configured [0xFF]
    ("c" : Path).toText.Carried ∧ Fitting Machine.host "c" machine ∧
      ¬((∃ settings after, load Machine.host (some "c") machine = .ok settings after) ∨
        ∃ problem after,
          load Machine.host (some "c") machine = .error (.problem problem) after) := by
  intro machine
  have loaded : load Machine.host (some "c") machine = .error .notUnicode machine := by cbv
  refine ⟨by decide, ?_, ?_⟩
  · intro tested bytes after text present asked unicode
    cases (configured_present _).symm.trans present
    cases (configured_content _).symm.trans asked
    have stray : Utf8.decodeStrict? [0xFF] = none := by cbv
    cases stray.symm.trans unicode
  · rintro (⟨settings, after, settled⟩ | ⟨problem, after, failed⟩)
    · cases loaded.symm.trans settled
    · cases loaded.symm.trans failed

end Config

end GenWalk
