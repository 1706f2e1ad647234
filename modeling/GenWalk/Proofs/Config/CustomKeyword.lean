import GenWalk.Config.Check
import GenWalk.Proofs.Directive.Line
import GenWalk.Proofs.Text.Decoded
import Mathlib.Data.List.Infix

/-!
The warning about a keyword of one's own. It says that files with the usual keyword will be ignored,
which is so unless the keyword goes on where the usual one ends
(`ConfigCheck.ignores_usual_iff`): only of two keywords that begin alike can both stand in one file
(`FirstLine.keywords_overlap`).
-/

namespace GenWalk

namespace FirstLine

variable {settings : Settings} {opener : Opener} {content rest : Bytes} {more : Text}

/-- The file has something to run under the keyword, or would have if its line ended. -/
def Uses (keyword : Text) (content : Bytes) : Prop := (read keyword content).command? ≠ some []

instance (keyword : Text) (content : Bytes) : Decidable (Uses keyword content) :=
  inferInstanceAs (Decidable (_ ≠ _))

theorem Uses.keyword_follows (uses : Uses settings.keyword content) (opens : opener.Opens content rest) :
    Utf8.encode settings.keyword <+: rest := by
  by_contra absent
  apply uses
  rw [read_of_opens opens, if_neg absent]
  rfl

theorem Uses.opened (uses : Uses settings.keyword content) :
    ∃ opener rest, Opener.Opens opener content rest := by
  by_contra unopened
  apply uses
  rw [read_of_unopened fun opener rest opens => unopened ⟨opener, rest, opens⟩]
  rfl

theorem keywords_overlap (one other : Settings) (uses : Uses one.keyword content)
    (uses' : Uses other.keyword content) :
    one.keyword <+: other.keyword ∨ other.keyword <+: one.keyword := by
  obtain ⟨opener, rest, opens⟩ := uses.opened
  have begins := uses.keyword_follows opens
  have begins' := uses'.keyword_follows opens
  have clean := isClean_keyword one
  have clean' := isClean_keyword other
  have either := List.prefix_or_prefix_of_prefix begins begins'
  exact either.imp (Utf8.encode_prefix_iff clean clean').1 (Utf8.encode_prefix_iff clean' clean).1

theorem read_longer {one other : Settings} (longer : other.keyword = one.keyword ++ more)
    (opens : opener.Opens content (Utf8.encode one.keyword ++ rest)) :
    read other.keyword content =
      if Utf8.encode more <+: rest then behindKeyword opener (rest.drop (Utf8.encode more).length)
      else .ordinary := by
  have written : Utf8.encode other.keyword = Utf8.encode one.keyword ++ Utf8.encode more := by
    rw [longer, Utf8.encode_append]
  have follows : Utf8.encode other.keyword <+: Utf8.encode one.keyword ++ rest ↔
      Utf8.encode more <+: rest := by
    rw [written, List.prefix_append_right_inj]
  rw [read_of_opens opens, written, List.length_append, List.drop_length_add_append]
  exact if_congr (written ▸ follows) rfl rfl

theorem exists_uses_both (one other : Settings) (longer : one.keyword <+: other.keyword) :
    ∃ content, Uses one.keyword content ∧ Uses other.keyword content := by
  obtain ⟨more, whole⟩ := longer
  have written : Utf8.encode other.keyword = Utf8.encode one.keyword ++ Utf8.encode more := by
    rw [← whole, Utf8.encode_append]
  let opener : Opener := ⟨.hash, true⟩
  have opens : opener.Opens (opener.bytes ++ Utf8.encode other.keyword)
      (Utf8.encode other.keyword ++ []) := by
    rw [List.append_nil]
    exact ⟨rfl, nofun⟩
  have opens' : opener.Opens (opener.bytes ++ Utf8.encode other.keyword)
      (Utf8.encode one.keyword ++ Utf8.encode more) := by
    rw [written]
    exact ⟨rfl, nofun⟩
  have oneLine : newline ∉ Utf8.encode more := by
    intro member
    apply newline_not_mem_keyword other
    rw [written]
    exact List.mem_append_right _ member
  refine ⟨opener.bytes ++ Utf8.encode other.keyword, ?_, ?_⟩
  · rw [Uses, read_of_keyword opens', behindKeyword_unended oneLine]
    nofun
  · rw [Uses, read_of_keyword opens, behindKeyword_unended List.not_mem_nil]
    nofun

end FirstLine

namespace ConfigCheck

open FirstLine (Uses)

def ignoringWarning (keyword : Text) : Text :=
  "Custom keyword " ++ keyword.quoted ++ "; files using " ++ defaultKeyword.trim.quoted ++
    " will be ignored."

variable {check : ConfigCheck} {settings : Settings}

theorem head?_of_mem_prefixWarnings {warning : Text} {prefixes : List Text}
    (member : warning ∈ prefixWarnings prefixes) : warning.head? = some (.char 'D') := by
  unfold prefixWarnings at member
  split at member
  next => cases member
  next =>
    rw [List.mem_singleton.1 member]
    rfl

theorem ignoringWarning_mem_iff (accepted : check.outcome = .ok settings) :
    ignoringWarning settings.keyword ∈ check.warnings ↔
      settings.keyword.getLast? = some (.char ' ') ∧ settings.keyword ≠ defaultKeyword := by
  have start : (ignoringWarning settings.keyword).head? = some (.char 'C') := rfl
  have unfound : ignoringWarning settings.keyword ∉
      if check.path?.isNone then [("No " ++ Config.fileName ++ " found. Using defaults." : Text)]
      else [] := by
    split
    · intro member
      rw [List.mem_singleton.1 member] at start
      exact absurd start (by decide)
    · exact List.not_mem_nil
  have unrepeated : ignoringWarning settings.keyword ∉ prefixWarnings settings.skipPrefixes := by
    intro member
    rw [head?_of_mem_prefixWarnings member] at start
    exact absurd start (by decide)
  have told : ignoringWarning settings.keyword ∈ check.warnings ↔
      ignoringWarning settings.keyword ∈ keywordWarnings settings.keyword := by
    simp only [warnings, accepted, List.mem_append, unfound, unrepeated, false_or, or_false]
  rw [told]
  unfold keywordWarnings
  split_ifs with unspaced custom
  · refine iff_of_false (fun member => ?_) fun both => unspaced both.1
    have other : (ignoringWarning settings.keyword).head? = some (.char 'K') := by
      rw [List.mem_singleton.1 member]
      rfl
    exact absurd (start.symm.trans other) (by decide)
  · exact iff_of_true (List.mem_singleton_self _) ⟨not_not.1 unspaced, custom⟩
  · exact iff_of_false List.not_mem_nil fun both => custom both.2

theorem eq_default_of_start {keyword : Text} (ending : keyword.getLast? = some (.char ' '))
    (within : keyword <+: defaultKeyword) : keyword = defaultKeyword := by
  have all : ∀ start ∈ defaultKeyword.inits, start.getLast? = some (.char ' ') →
      start = defaultKeyword := by
    decide
  exact all keyword ((List.mem_inits _ _).2 within) ending

/-- Of settings with a keyword of one's own that ends in a space it is said that files with the usual
keyword are ignored. So it is, of every file, unless their keyword begins with the usual one; then the
file is ignored where its line does not go on as the keyword does, and is read behind the longer
keyword where it does. -/
theorem ignores_usual_iff (accepted : check.outcome = .ok settings)
    (warned : ignoringWarning settings.keyword ∈ check.warnings) :
    ((∀ content, Uses defaultKeyword content →
        (FirstLine.read settings.keyword content).command? = some []) ↔
      ¬defaultKeyword <+: settings.keyword) ∧
    ∀ more, settings.keyword = defaultKeyword ++ more → ∀ (opener : Opener) (content rest : Bytes),
      opener.Opens content (Utf8.encode defaultKeyword ++ rest) →
      FirstLine.read settings.keyword content =
        if Utf8.encode more <+: rest then
          FirstLine.behindKeyword opener (rest.drop (Utf8.encode more).length)
        else .ordinary := by
  obtain ⟨ending, custom⟩ := (ignoringWarning_mem_iff accepted).1 warned
  refine ⟨⟨fun ignored longer => ?_, fun apart content uses => ?_⟩, fun more longer opener content rest
    opens => ?_⟩
  · obtain ⟨content, uses, uses'⟩ := FirstLine.exists_uses_both .usual settings longer
    exact uses' (ignored content uses)
  · by_contra uses'
    rcases FirstLine.keywords_overlap .usual settings uses uses' with longer | shorter
    · exact apart longer
    · exact custom (eq_default_of_start ending shorter)
  · have prolongs : settings.keyword = Settings.usual.keyword ++ more := longer
    exact FirstLine.read_longer prolongs opens

def checked (settings : Settings) : ConfigCheck :=
  { path? := some (.ofText "helmgen.yml"), outcome := .ok settings }

def parted : Settings := { Settings.usual with
  keyword := "helm:generator "
  keyword_accepted := rfl }

def prolonged : Settings := { Settings.usual with
  keyword := "helm:generate go "
  keyword_accepted := rfl }

theorem make_ignored :
    ignoringWarning parted.keyword ∈ (checked parted).warnings ∧
      ignoringWarning prolonged.keyword ∈ (checked prolonged).warnings ∧
      (∀ content, Uses defaultKeyword content →
        (FirstLine.read parted.keyword content).command? = some []) ∧
      Uses defaultKeyword (Utf8.encode "/* helm:generate make */\n") ∧
      FirstLine.read prolonged.keyword (Utf8.encode "//helm:generate gofmt x\n") = .ordinary ∧
      FirstLine.read prolonged.keyword (Utf8.encode "//helm:generate go fmt x\n") =
        .command (Text.ofString "fmt x") := by
  have warned : ignoringWarning parted.keyword ∈ (checked parted).warnings :=
    (ignoringWarning_mem_iff rfl).2 ⟨by decide, by decide⟩
  have warned' : ignoringWarning prolonged.keyword ∈ (checked prolonged).warnings :=
    (ignoringWarning_mem_iff rfl).2 ⟨by decide, by decide⟩
  have accepted (settings : Settings) : (checked settings).outcome = .ok settings := rfl
  have ignored := (ignores_usual_iff (accepted parted) warned).1
  have read := (ignores_usual_iff (accepted prolonged) warned').2 "go " rfl ⟨.slashes, false⟩
  have gofmt := read (Utf8.encode "//helm:generate gofmt x\n") (Utf8.encode "gofmt x\n")
    ⟨by decide +kernel, by decide⟩
  have goFmt := read (Utf8.encode "//helm:generate go fmt x\n") (Utf8.encode "go fmt x\n")
    ⟨by decide +kernel, by decide⟩
  exact ⟨warned, warned', ignored.2 (by decide), by decide +kernel, gofmt.trans (by decide),
    goFmt.trans (by decide)⟩

/-- The warning is given, and a file that uses the usual keyword is not ignored. -/
theorem build_not_ignored :
    ¬∀ settings : Settings, ignoringWarning settings.keyword ∈ (checked settings).warnings →
      ∀ content, Uses defaultKeyword content →
        (FirstLine.read settings.keyword content).command? = some [] := by
  intro sound
  have warned : ignoringWarning prolonged.keyword ∈ (checked prolonged).warnings :=
    (ignoringWarning_mem_iff rfl).2 ⟨by decide, by decide⟩
  have ignored := sound prolonged warned (Utf8.encode "# helm:generate go build\n")
    (by decide +kernel)
  have built : FirstLine.read prolonged.keyword (Utf8.encode "# helm:generate go build\n") =
      .command (Text.ofString "build") := by
    decide +kernel
  rw [built] at ignored
  exact absurd ignored (by decide)

end ConfigCheck

end GenWalk
