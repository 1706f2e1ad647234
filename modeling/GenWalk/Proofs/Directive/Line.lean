import GenWalk.Proofs.Text.Trim
import GenWalk.Proofs.Text.Utf8
import GenWalk.Settings
import GenWalk.Directive.Line
import Mathlib.Data.Bool.Basic
import Mathlib.Data.List.TakeWhile

/-!
The grammar of the first line. A file is read in three steps whose borders need not be those of the
opener, the keyword and the line; the main statement `FirstLine.read_follows_grammar` says that the
answer is that of the grammar all the same, and that nothing behind the first line counts.
-/

namespace GenWalk

namespace Opener

def bytes (opener : Opener) : Bytes := Utf8.encode opener.text

/-- The content is the opener and the rest. An opener without a space has none after it. -/
def Opens (opener : Opener) (content rest : Bytes) : Prop :=
  content = opener.bytes ++ rest ∧ (opener.spaced = false → rest.head? ≠ some 0x20)

theorem length_bytes (opener : Opener) : opener.bytes.length = opener.length := by
  rcases opener with ⟨style, spaced⟩
  cases style <;> cases spaced <;> rfl

theorem length_bounds (opener : Opener) : 1 ≤ opener.length ∧ opener.length ≤ 3 := by
  rcases opener with ⟨style, spaced⟩
  cases style <;> cases spaced <;> decide

theorem opens_styled {style : CommentStyle} {content behind : Bytes}
    (marked : content = Utf8.encode style.mark ++ behind) :
    ∃ rest, Opens ⟨style, behind.head? == some 0x20⟩ content rest := by
  by_cases space : behind.head? = some 0x20
  · obtain ⟨rest, rfl⟩ := List.head?_eq_some_iff.1 space
    refine ⟨rest, ?_, fun unspaced => by cases unspaced⟩
    rw [marked]
    cases style <;> rfl
  · have unspaced : (behind.head? == some 0x20) = false := beq_eq_false_iff_ne.2 space
    rw [unspaced]
    refine ⟨behind, ?_, fun _ => space⟩
    rw [marked]
    cases style <;> rfl

theorem opens_of_ofBytes? {content : Bytes} {opener : Opener}
    (found : ofBytes? content = some opener) : ∃ rest, Opens opener content rest := by
  unfold ofBytes? at found
  split at found
  next => exact Option.some.inj found ▸ opens_styled rfl
  next => exact Option.some.inj found ▸ opens_styled rfl
  next => exact Option.some.inj found ▸ opens_styled rfl
  next => cases found

theorem Opens.ofBytes? {content rest : Bytes} {opener : Opener} (opens : Opens opener content rest) :
    Opener.ofBytes? content = some opener := by
  obtain ⟨rfl, unspaced⟩ := opens
  rcases opener with ⟨style, spaced⟩
  cases spaced with
  | true => cases style <;> rfl
  | false =>
    have space : (rest.head? == some 0x20) = false := beq_eq_false_iff_ne.2 (unspaced rfl)
    have styled : Opener.ofBytes? (Utf8.encode style.mark ++ rest) =
        some ⟨style, rest.head? == some 0x20⟩ := by cases style <;> rfl
    rw [space] at styled
    simpa [bytes, text] using styled

theorem Opens.length_content {content rest : Bytes} {opener : Opener}
    (opens : Opens opener content rest) : content.length = opener.length + rest.length := by
  rw [opens.1, List.length_append, opener.length_bytes]

theorem Opens.drop_content {content rest : Bytes} {opener : Opener}
    (opens : Opens opener content rest) : content.drop opener.length = rest := by
  rw [opens.1, ← opener.length_bytes]
  exact List.drop_left

theorem ofBytes?_peek (content : Bytes) :
    ofBytes? (content.take FirstLine.peekLength) = ofBytes? content := by
  rcases content with _ | ⟨first, _ | ⟨second, _ | ⟨third, rest⟩⟩⟩
  · rfl
  · rfl
  · rfl
  · show ofBytes? [first, second, third] = ofBytes? (first :: second :: third :: rest)
    unfold ofBytes?
    grind

end Opener

namespace FirstLine

def behindKeyword (opener : Opener) (rest : Bytes) : FirstLine :=
  if (leadingLine rest).getLast? = some newline then .command (commandText opener (leadingLine rest))
  else .unterminated

theorem peek_append {content : Bytes} {offset count : Nat} (short : offset ≤ peekLength)
    (long : peekLength ≤ content.length) (whole : peekLength - offset ≤ count) :
    let begun := (content.take peekLength).drop offset
    let behindHead := content.drop peekLength
    begun ++ behindHead.take (count - begun.length) = (content.drop offset).take count ∧
      behindHead.drop (count - begun.length) = (content.drop offset).drop count := by
  intro begun behindHead
  have counted : begun.length = peekLength - offset := by
    simp only [begun, List.length_drop, List.length_take]
    omega
  have joined : content.drop offset = begun ++ behindHead := by
    rw [← List.drop_append_of_le_length, List.take_append_drop]
    rw [List.length_take]
    omega
  have begins : begun.take count = begun := List.take_of_length_le (by omega)
  have nothing : begun.drop count = [] := List.drop_of_length_le (by omega)
  rw [joined, List.take_append, List.drop_append, begins, nothing]
  exact ⟨rfl, rfl⟩

variable {settings : Settings} {opener : Opener} {content rest : Bytes}

theorem two_le_keyword (settings : Settings) : 2 ≤ (Utf8.encode settings.keyword).length := by
  have accepted := settings.keyword_accepted
  unfold Keyword.problem? at accepted
  grind

theorem read_of_short (settings : Settings) (opens : opener.Opens content rest)
    (short : content.length < peekLength) :
    read settings.keyword content = .ordinary ∧ ¬Utf8.encode settings.keyword <+: rest := by
  have bounds := opener.length_bounds
  have keyword := two_le_keyword settings
  have size := opens.length_content
  have peeked : (content.take peekLength).length < peekLength := by
    rw [List.length_take]
    omega
  constructor
  · unfold read
    simp only [List.splitAt_eq]
    rw [if_pos peeked]
  · intro there
    have fits := there.length_le
    unfold peekLength at short
    omega

/-- The three steps of reading are one look at what stands behind the opener. -/
theorem read_of_opens (opens : opener.Opens content rest) :
    read settings.keyword content =
      if Utf8.encode settings.keyword <+: rest then
        behindKeyword opener (rest.drop (Utf8.encode settings.keyword).length)
      else .ordinary := by
  by_cases short : content.length < peekLength
  · obtain ⟨ordinary, absent⟩ := read_of_short settings opens short
    rw [ordinary, if_neg absent]
  · have bounds := opener.length_bounds
    have keyword := two_le_keyword settings
    have long : peekLength ≤ content.length := Nat.le_of_not_lt short
    have peeked : (content.take peekLength).length = peekLength := by
      rw [List.length_take]
      omega
    have whole : peekLength - opener.length ≤ (Utf8.encode settings.keyword).length := by
      unfold peekLength
      omega
    obtain ⟨slug, after⟩ := peek_append (show opener.length ≤ peekLength from bounds.2) long whole
    unfold read
    simp only [List.splitAt_eq]
    rw [peeked, if_neg (Nat.lt_irrefl _), Opener.ofBytes?_peek, opens.ofBytes?]
    simp only [slug, after, opens.drop_content]
    by_cases there : Utf8.encode settings.keyword <+: rest
    · rw [if_pos there, if_neg (not_not_intro (List.prefix_iff_eq_take.1 there).symm)]
      rfl
    · have different : rest.take (Utf8.encode settings.keyword).length ≠ Utf8.encode settings.keyword :=
        fun same => there (List.prefix_iff_eq_take.2 same.symm)
      rw [if_neg there, if_pos different]

theorem read_of_unopened (unopened : ∀ opener rest, ¬Opener.Opens opener content rest) :
    read settings.keyword content = .ordinary := by
  have nothing : Opener.ofBytes? content = none := by
    cases found : Opener.ofBytes? content with
    | none => rfl
    | some opener =>
      obtain ⟨rest, opens⟩ := Opener.opens_of_ofBytes? found
      exact absurd opens (unopened opener rest)
  unfold read
  simp only [List.splitAt_eq, Opener.ofBytes?_peek, nothing]
  exact ite_self _

theorem leadingLine_append {line later : Bytes} (inside : newline ∉ line) :
    leadingLine (line ++ newline :: later) = line ++ [newline] := by
  have passes : ∀ byte ∈ line, (byte != newline) = true := by
    intro byte member
    exact bne_iff_ne.2 fun same => inside (same ▸ member)
  unfold leadingLine
  rw [List.takeWhile_append_of_pos passes, List.dropWhile_append_of_pos passes]
  simp

theorem leadingLine_unended {line : Bytes} (inside : newline ∉ line) : leadingLine line = line := by
  have passes : ∀ byte ∈ line, (byte != newline) = true := by
    intro byte member
    exact bne_iff_ne.2 fun same => inside (same ▸ member)
  unfold leadingLine
  rw [List.takeWhile_eq_self_iff.2 passes, List.dropWhile_eq_nil_iff.2 passes]
  simp

theorem behindKeyword_unended {line : Bytes} (inside : newline ∉ line) :
    behindKeyword opener line = .unterminated := by
  unfold behindKeyword
  rw [leadingLine_unended inside, if_neg]
  intro last
  exact inside (List.mem_of_getLast? last)

theorem commandText_newline (line : Bytes) :
    commandText opener (line ++ [newline]) = commandText opener line := by
  have newlineIsAscii : newline < 0x80 := by decide
  unfold commandText
  rw [Utf8.decode_append_ascii newlineIsAscii line,
    show Utf8.decode [newline] = [.char '\n'] from rfl, Text.trim_concat_blank rfl]

theorem behindKeyword_ended {line later : Bytes} (inside : newline ∉ line) :
    behindKeyword opener (line ++ newline :: later) = .command (commandText opener line) := by
  unfold behindKeyword
  rw [leadingLine_append inside, if_pos (List.getLast?_concat ..), commandText_newline]

theorem read_of_keyword (opens : opener.Opens content (Utf8.encode settings.keyword ++ rest)) :
    read settings.keyword content = behindKeyword opener rest := by
  rw [read_of_opens opens, if_pos (List.prefix_append _ _), List.drop_left]

theorem read_ordinary
    (absent : ∀ opener rest, ¬Opener.Opens opener content (Utf8.encode settings.keyword ++ rest)) :
    read settings.keyword content = .ordinary := by
  by_cases opened : ∃ opener rest, Opener.Opens opener content rest
  · obtain ⟨opener, rest, opens⟩ := opened
    rw [read_of_opens opens, if_neg]
    rintro ⟨behind, rfl⟩
    exact absent opener behind opens
  · exact read_of_unopened fun opener rest opens => opened ⟨opener, rest, opens⟩

theorem isClean_keyword (settings : Settings) : settings.keyword.isClean = true := by
  have accepted := settings.keyword_accepted
  unfold Keyword.problem? at accepted
  grind

theorem isChar_of_mem_keyword {glyph : Glyph} (among : glyph ∈ settings.keyword) :
    glyph.isChar = true :=
  List.all_eq_true.1 (isClean_keyword settings) glyph among

theorem newline_not_mem_keyword (settings : Settings) : newline ∉ Utf8.encode settings.keyword := by
  intro member
  have accepted := settings.keyword_accepted
  obtain ⟨glyph, among, inside⟩ := List.mem_flatMap.1 member
  have oneLine : settings.keyword.contains (.char '\n') = false := by
    unfold Keyword.problem? at accepted
    grind
  have isChar := isChar_of_mem_keyword among
  cases glyph with
  | char value =>
    obtain rfl : value = '\n' := Utf8.eq_ofNat_of_mem_encodeChar inside (by decide)
    rw [List.contains_iff_mem.2 among] at oneLine
    cases oneLine
  | stray value => cases isChar
  | half value => cases isChar

theorem newline_not_mem_opener (opener : Opener) : newline ∉ opener.bytes := by
  rcases opener with ⟨style, spaced⟩
  cases style <;> cases spaced <;> decide

theorem line_of_opens {line later : Bytes}
    (opens : opener.Opens (line ++ newline :: later) (Utf8.encode settings.keyword ++ rest)) :
    ∃ command, line = opener.bytes ++ Utf8.encode settings.keyword ++ command ∧
      rest = command ++ newline :: later := by
  have free : newline ∉ opener.bytes ++ Utf8.encode settings.keyword := by
    rw [List.mem_append, not_or]
    exact ⟨newline_not_mem_opener opener, newline_not_mem_keyword settings⟩
  have split := opens.1
  rw [← List.append_assoc] at split
  rcases List.append_eq_append_iff.1 split with ⟨command, whole, behind⟩ | ⟨command, whole, behind⟩
  · cases command with
    | nil => exact ⟨[], by rw [whole, List.append_nil, List.append_nil], behind.symm⟩
    | cons byte others =>
      have same : newline = byte := (List.cons.inj behind).1
      exact absurd (by rw [whole, ← same]; simp) free
  · exact ⟨command, whole, behind⟩

theorem opens_replaced (opens : opener.Opens content (Utf8.encode settings.keyword ++ rest))
    (other : Bytes) :
    opener.Opens (opener.bytes ++ (Utf8.encode settings.keyword ++ other))
      (Utf8.encode settings.keyword ++ other) := by
  refine ⟨rfl, fun unspaced => ?_⟩
  have behind := opens.2 unspaced
  have long := two_le_keyword settings
  cases written : Utf8.encode settings.keyword with
  | nil =>
    rw [written] at long
    cases long
  | cons byte bytes =>
    rw [written] at behind
    exact behind

theorem read_replaced {line later : Bytes} (inside : newline ∉ line) (later' : Bytes)
    (opens : opener.Opens (line ++ newline :: later) (Utf8.encode settings.keyword ++ rest)) :
    read settings.keyword (line ++ newline :: later) =
      read settings.keyword (line ++ newline :: later') := by
  obtain ⟨command, rfl, rfl⟩ := line_of_opens opens
  have clean : newline ∉ command := fun member => inside (List.mem_append_right _ member)
  have again := opens_replaced opens (command ++ newline :: later')
  have same : opener.bytes ++ (Utf8.encode settings.keyword ++ (command ++ newline :: later')) =
      opener.bytes ++ Utf8.encode settings.keyword ++ command ++ newline :: later' := by
    simp only [List.append_assoc]
  rw [same] at again
  rw [read_of_keyword opens, read_of_keyword again, behindKeyword_ended clean,
    behindKeyword_ended clean]

theorem read_append_newline {line : Bytes} (inside : newline ∉ line) (later later' : Bytes) :
    read settings.keyword (line ++ newline :: later) =
      read settings.keyword (line ++ newline :: later') := by
  by_cases first : ∃ opener rest, Opener.Opens opener (line ++ newline :: later)
      (Utf8.encode settings.keyword ++ rest)
  · obtain ⟨opener, rest, opens⟩ := first
    exact read_replaced inside later' opens
  · by_cases second : ∃ opener rest, Opener.Opens opener (line ++ newline :: later')
        (Utf8.encode settings.keyword ++ rest)
    · obtain ⟨opener, rest, opens⟩ := second
      exact (read_replaced inside later opens).symm
    · rw [read_ordinary fun opener rest opens => first ⟨opener, rest, opens⟩,
        read_ordinary fun opener rest opens => second ⟨opener, rest, opens⟩]

/-- The directive of a file is the one that the grammar of its first line gives it. -/
theorem read_follows_grammar (settings : Settings) (content : Bytes) :
    let keyword := Utf8.encode settings.keyword
    (read settings.keyword content = .unterminated ↔
      ∃ opener line, Opener.Opens opener content (keyword ++ line) ∧ newline ∉ line) ∧
    (∀ opener line later, Opener.Opens opener content (keyword ++ (line ++ newline :: later)) →
      newline ∉ line →
      (read settings.keyword content).command? = some (match opener.style with
        | .hash | .slashes => (Utf8.decode line).trim
        | .block => ((Utf8.decode line).trim.dropEnding "*/").trim)) ∧
    ((∀ opener rest, ¬Opener.Opens opener content (keyword ++ rest)) →
      (read settings.keyword content).command? = some []) ∧
    ∀ line later later', content = line ++ newline :: later → newline ∉ line →
      read settings.keyword (line ++ newline :: later') = read settings.keyword content := by
  intro keyword
  refine ⟨⟨fun unended => ?_, ?_⟩, ?_, ?_, ?_⟩
  · by_cases found : ∃ opener rest, Opener.Opens opener content (keyword ++ rest)
    · obtain ⟨opener, rest, opens⟩ := found
      refine ⟨opener, rest, opens, fun member => ?_⟩
      obtain ⟨line, later, rfl, inside⟩ := List.eq_append_cons_of_mem member
      rw [read_of_keyword opens, behindKeyword_ended inside] at unended
      cases unended
    · rw [read_ordinary fun opener rest opens => found ⟨opener, rest, opens⟩] at unended
      cases unended
  · rintro ⟨opener, line, opens, inside⟩
    rw [read_of_keyword opens, behindKeyword_unended inside]
  · intro opener line later opens inside
    rw [read_of_keyword opens, behindKeyword_ended inside]
    rcases opener with ⟨style, spaced⟩
    cases style <;> rfl
  · intro absent
    rw [read_ordinary absent]
    rfl
  · rintro line later later' rfl inside
    exact read_append_newline inside later' later

end FirstLine

end GenWalk
