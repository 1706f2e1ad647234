import GenWalk.Validation

/-!
Settings: which keyword marks a directive and which directories are left out of a walk. Settings
are accepted settings: the type itself holds that no rule objects to them.
-/

namespace GenWalk

def defaultKeyword : Text := "helm:generate "

def defaultSkipPrefixes : List Text := [Text.ofString ".", Text.ofString "_"]

inductive KeywordProblem where
  | blank
  | severalLines
  | notUnicode
  | tooShort
deriving DecidableEq, Inhabited

namespace Keyword

/-- A keyword shows on one line and takes in whatever a peek at a file reads behind an opener of one
byte. -/
def problem? (keyword : Text) : Option KeywordProblem :=
  if keyword.isBlank then some .blank
  else if keyword.contains (.char '\n') then some .severalLines
  else if !keyword.isClean then some .notUnicode
  else if (Utf8.encode keyword).length < 2 then some .tooShort
  else none

def refusedRun (points : List Nat) : Text :=
  Text.refusedFrom (points.takeWhile (!isSurrogate ·)).length points

def message (points : List Nat) : KeywordProblem → Text
  | .blank => "keyword must not be blank"
  | .severalLines => "keyword must fit on one line"
  | .notUnicode => refusedRun points
  | .tooShort => "keyword must be at least two bytes long"

def check (value : Value) : Checked { keyword : Text // problem? keyword = none } :=
  match value.checkText with
  | .error issues => .error issues
  | .ok keyword => match accepted : problem? keyword with
    | none => .ok ⟨keyword, accepted⟩
    | some problem => Checked.refuse (.forbidden (message keyword.codePoints problem))

end Keyword

namespace SkipPrefixes

/-- An empty prefix would leave out every directory. -/
def Acceptable (prefixes : List Text) : Prop := ∀ start ∈ prefixes, start ≠ []

instance (prefixes : List Text) : Decidable (Acceptable prefixes) :=
  inferInstanceAs (Decidable (∀ start ∈ prefixes, start ≠ []))

def check (value : Value) : Checked { prefixes : List Text // Acceptable prefixes } :=
  match value.checkTextList with
  | .error issues => .error issues
  | .ok prefixes =>
    if accepted : Acceptable prefixes then .ok ⟨prefixes, accepted⟩
    else Checked.refuse (.forbidden "skip_prefixes entries must be non-empty")

end SkipPrefixes

structure Settings where
  version : Int := 1
  keyword : Text := defaultKeyword
  skipPrefixes : List Text := defaultSkipPrefixes
  keyword_accepted : Keyword.problem? keyword = none := by decide
  skipPrefixes_accepted : SkipPrefixes.Acceptable skipPrefixes := by decide
deriving DecidableEq

namespace Settings

def usual : Settings := {}

instance : Inhabited Settings := ⟨usual⟩

def recordName : String := "GenerateSettings"

def ofFields (entries : List (Value × Value)) : Checked Settings :=
  (Checked.accept fun version (keyword : { keyword // Keyword.problem? keyword = none })
      (prefixes : { prefixes // SkipPrefixes.Acceptable prefixes }) => ({
    version
    keyword := keyword.val
    skipPrefixes := prefixes.val
    keyword_accepted := keyword.property
    skipPrefixes_accepted := prefixes.property } : Settings))
  |>.beside (.field entries "version" (some 1) Value.checkInteger)
  |>.beside (.field entries "keyword" (some ⟨defaultKeyword, by decide⟩) Keyword.check)
  |>.beside (.field entries "skip_prefixes" (some ⟨defaultSkipPrefixes, by decide⟩)
    SkipPrefixes.check)

def ofValue : Value → Checked Settings
  | .map entries => ofFields entries
  | _ => Checked.refuse (.notRecord recordName)

end Settings

end GenWalk
