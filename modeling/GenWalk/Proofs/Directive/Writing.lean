import GenWalk.Proofs.Directive.Line
import GenWalk.Proofs.Text.Decoded

/-!
Directives that are written and read back. A command that can stand on a line is read off it again,
whatever blanks stand around it, and every command that is read can stand on a line: the main
statement is `FirstLine.written_is_read`.
-/

namespace GenWalk.FirstLine

/-- A command that can stand on a line: it is spelled in bytes, and no blank of its own could be taken
for one around it. -/
structure Writable (command : Text) : Prop where
  decoded : Utf8.Decoded command
  oneLine : .char '\n' ∉ command
  filled : command ≠ []
  bare : command.BareEnds

/-- Bytes that may stand around a command: spaces, tabs and carriage returns. -/
def Padding : Type :=
  { bytes : Bytes // ∀ byte ∈ bytes, byte = 0x20 ∨ byte = 0x09 ∨ byte = 0x0D }

structure Layout where
  opener : Opener
  before : Padding
  after : Padding
  last : Padding

def Layout.behind (layout : Layout) (command closing : Text) : Bytes :=
  layout.before.val ++ Utf8.encode command ++ layout.after.val ++ Utf8.encode closing ++
    layout.last.val

def Layout.line (layout : Layout) (keyword command closing : Text) : Bytes :=
  layout.opener.bytes ++ (Utf8.encode keyword ++ layout.behind command closing)

namespace Padding

variable (padding : Padding)

theorem ascii : ∀ byte ∈ padding.val, byte < 0x80 := by
  intro byte member
  rcases padding.property byte member with rfl | rfl | rfl
  · decide
  · decide
  · decide

theorem blank : ∀ glyph ∈ Utf8.decode padding.val, glyph.isBlank = true := by
  intro glyph member
  rw [Utf8.decode_of_ascii padding.ascii] at member
  obtain ⟨byte, inside, rfl⟩ := List.mem_map.1 member
  rcases padding.property byte inside with rfl | rfl | rfl
  · decide
  · decide
  · decide

theorem newline_not_mem : newline ∉ padding.val := by
  intro member
  rcases padding.property newline member with same | same | same
  · cases same
  · cases same
  · cases same

end Padding

variable {command : Text} (layout : Layout)

theorem ascii_closing {closing : Text} (known : closing = "" ∨ closing = "*/") :
    ∀ byte ∈ Utf8.encode closing, byte < 0x80 := by
  have all : (Utf8.encode closing).all (· < 0x80) = true := by
    rcases known with rfl | rfl
    · decide
    · decide
  exact fun byte member => of_decide_eq_true (List.all_eq_true.1 all byte member)

theorem decode_closing {closing : Text} (known : closing = "" ∨ closing = "*/") :
    Utf8.decode (Utf8.encode closing) = closing := by
  rcases known with rfl | rfl
  · decide
  · decide

theorem Layout.decode_behind (writable : Writable command) {closing : Text}
    (known : closing = "" ∨ closing = "*/") :
    Utf8.decode (layout.behind command closing) =
      Utf8.decode layout.before.val ++ command ++ Utf8.decode layout.after.val ++ closing ++
        Utf8.decode layout.last.val := by
  rw [behind, Utf8.decode_append_of_ascii layout.last.ascii,
    Utf8.decode_append_of_ascii (ascii_closing known),
    Utf8.decode_append_of_ascii layout.after.ascii, Utf8.decode_ascii_append layout.before.ascii,
    writable.decoded.decode_encode, decode_closing known]

theorem Layout.newline_not_mem_behind (writable : Writable command) {closing : Text}
    (known : closing = "" ∨ closing = "*/") : newline ∉ layout.behind command closing := by
  have inCommand : newline ∉ Utf8.encode command := by
    intro member
    have newlineIsAscii : newline < 0x80 := by decide
    rw [← Utf8.mem_decode_ascii newlineIsAscii, writable.decoded.decode_encode] at member
    exact writable.oneLine member
  have inClosing : newline ∉ Utf8.encode closing := by
    rcases known with rfl | rfl
    · decide
    · decide
  simp only [behind, List.mem_append, not_or]
  exact ⟨⟨⟨⟨layout.before.newline_not_mem, inCommand⟩, layout.after.newline_not_mem⟩, inClosing⟩,
    layout.last.newline_not_mem⟩

theorem commandText_open (writable : Writable command)
    (unclosed : layout.opener.style = .block → ¬("*/" : Text) <:+ command) :
    commandText layout.opener (layout.behind command "") = command := by
  have blanks : ∀ glyph ∈ Utf8.decode layout.after.val ++ ("" ++ Utf8.decode layout.last.val),
      glyph.isBlank = true := by
    intro glyph member
    rcases List.mem_append.1 member with here | later
    · exact layout.after.blank glyph here
    · exact layout.last.blank glyph later
  have trimmed : (Utf8.decode (layout.behind command "")).trim = command := by
    rw [layout.decode_behind writable (Or.inl rfl), List.append_assoc, List.append_assoc]
    exact writable.bare.trim_between layout.before.blank blanks
  unfold commandText Opener.closing
  rw [trimmed]
  cases style : layout.opener.style with
  | hash => rfl
  | slashes => rfl
  | block =>
    show (command.dropEnding "*/").trim = command
    rw [Text.dropEnding_of_absent (unclosed style), writable.bare.trim_eq_self]

theorem Writable.bareEnds_closed (writable : Writable command) (blanks : Text) :
    Text.BareEnds (command ++ blanks ++ "*/") where
  first glyph start := by
    obtain ⟨begin, rest, rfl⟩ := List.exists_cons_of_ne_nil writable.filled
    exact writable.bare.first glyph start
  last glyph ending := by
    rw [show ("*/" : Text) = [.char '*'] ++ [.char '/'] from rfl, ← List.append_assoc,
      List.getLast?_concat] at ending
    obtain rfl := Option.some.inj ending
    rfl

theorem commandText_closed (writable : Writable command) (block : layout.opener.style = .block) :
    commandText layout.opener (layout.behind command "*/") = command := by
  have trimmed : (Utf8.decode (layout.behind command "*/")).trim =
      command ++ Utf8.decode layout.after.val ++ "*/" := by
    -- The mark shields the blanks before it, so that the first trimming stops there.
    rw [layout.decode_behind writable (Or.inr rfl), List.append_assoc (Utf8.decode _) command,
      List.append_assoc (Utf8.decode layout.before.val)]
    exact (writable.bareEnds_closed _).trim_between layout.before.blank layout.last.blank
  unfold commandText Opener.closing
  rw [trimmed, block]
  show ((command ++ Utf8.decode layout.after.val ++ "*/").dropEnding "*/").trim = command
  rw [Text.dropEnding_append, Text.trim_append_blanks layout.after.blank, writable.bare.trim_eq_self]

variable {settings : Settings}

theorem head?_encode_keyword (unspaced : settings.keyword.head? ≠ some (.char ' ')) :
    (Utf8.encode settings.keyword).head? ≠ some 0x20 := by
  intro spaced
  cases spelled : settings.keyword with
  | nil =>
    rw [spelled] at spaced
    cases spaced
  | cons glyph rest =>
    have isChar : glyph.isChar = true :=
      isChar_of_mem_keyword (spelled.symm ▸ List.mem_cons_self)
    rw [spelled] at spaced unspaced
    cases glyph with
    | char value =>
      obtain ⟨first, others, written⟩ := List.exists_cons_of_ne_nil (Utf8.encodeChar_ne_nil value)
      rw [Utf8.encode, List.flatMap_cons, Utf8.encodeGlyph, written] at spaced
      obtain rfl : first = 0x20 := Option.some.inj spaced
      have member : (0x20 : UInt8) ∈ Utf8.encodeChar value := by
        rw [written]
        exact List.mem_cons_self
      have isSpace : value = ' ' := Utf8.eq_ofNat_of_mem_encodeChar member (by decide)
      exact unspaced (by rw [isSpace]; rfl)
    | stray value => cases isChar
    | half value => cases isChar

theorem opens_keyword (opener : Opener)
    (parted : opener.spaced = false → settings.keyword.head? ≠ some (.char ' ')) (rest : Bytes) :
    opener.Opens (opener.bytes ++ (Utf8.encode settings.keyword ++ rest))
      (Utf8.encode settings.keyword ++ rest) := by
  refine ⟨rfl, fun unspaced => ?_⟩
  have long := two_le_keyword settings
  have start := head?_encode_keyword (parted unspaced)
  obtain ⟨first, others, spelled⟩ :=
    List.exists_cons_of_length_pos (Nat.lt_of_lt_of_le Nat.zero_lt_two long)
  rw [spelled] at start ⊢
  exact start

theorem read_line (unspaced : settings.keyword.head? ≠ some (.char ' ')) (writable : Writable command)
    {closing : Text} (known : closing = "" ∨ closing = "*/") (tail : Bytes) :
    read settings.keyword (layout.line settings.keyword command closing ++ newline :: tail) =
      .command (commandText layout.opener (layout.behind command closing)) := by
  have opens := opens_keyword layout.opener (fun _ => unspaced)
    (layout.behind command closing ++ newline :: tail)
  have joined : layout.line settings.keyword command closing ++ newline :: tail =
      layout.opener.bytes ++
        (Utf8.encode settings.keyword ++ (layout.behind command closing ++ newline :: tail)) := by
    simp only [Layout.line, List.append_assoc]
  rw [joined, read_of_keyword opens, behindKeyword_ended (layout.newline_not_mem_behind writable known)]

theorem read_open_line (unspaced : settings.keyword.head? ≠ some (.char ' '))
    (writable : Writable command)
    (unclosed : layout.opener.style = .block → ¬("*/" : Text) <:+ command) (tail : Bytes) :
    read settings.keyword (layout.line settings.keyword command "" ++ newline :: tail) =
      .command command := by
  rw [read_line layout unspaced writable (Or.inl rfl), commandText_open layout writable unclosed]

theorem read_closed_line (unspaced : settings.keyword.head? ≠ some (.char ' '))
    (writable : Writable command) (block : layout.opener.style = .block) (tail : Bytes) :
    read settings.keyword (layout.line settings.keyword command "*/" ++ newline :: tail) =
      .command command := by
  rw [read_line layout unspaced writable (Or.inr rfl), commandText_closed layout writable block]

theorem read_styled_line (unspaced : settings.keyword.head? ≠ some (.char ' '))
    (writable : Writable command) (tail : Bytes) :
    read settings.keyword
        (layout.line settings.keyword command layout.opener.closing ++ newline :: tail) =
      .command command := by
  unfold Opener.closing
  cases style : layout.opener.style with
  | hash =>
    have lineComment : layout.opener.style ≠ .block := by
      rw [style]
      decide
    exact read_open_line layout unspaced writable (fun block => absurd block lineComment) tail
  | slashes =>
    have lineComment : layout.opener.style ≠ .block := by
      rw [style]
      decide
    exact read_open_line layout unspaced writable (fun block => absurd block lineComment) tail
  | block => exact read_closed_line layout unspaced writable style tail

theorem leadingLine_ended {bytes : Bytes} (ended : (leadingLine bytes).getLast? = some newline) :
    ∃ line, newline ∉ line ∧ leadingLine bytes = line ++ [newline] := by
  by_cases member : newline ∈ bytes
  · obtain ⟨line, later, rfl, inside⟩ := List.eq_append_cons_of_mem member
    exact ⟨line, inside, leadingLine_append inside⟩
  · rw [leadingLine_unended member] at ended
    exact absurd (List.mem_of_getLast? ended) member

theorem exists_line_of_read {keyword : Text} {content : Bytes}
    (told : read keyword content = .command command) :
    ∃ opener line, newline ∉ line ∧ command = commandText opener line := by
  unfold read at told
  simp only [List.splitAt_eq] at told
  split at told
  next => cases told
  next =>
    split at told
    next => cases told
    next opener _ =>
      split at told
      next => cases told
      next =>
        split at told
        next ended =>
          obtain ⟨line, inside, same⟩ := leadingLine_ended ended
          rw [same, commandText_newline] at told
          exact ⟨opener, line, inside, (FirstLine.command.inj told).symm⟩
        next => cases told

theorem commandText_infix (opener : Opener) (line : Bytes) :
    commandText opener line <:+: Utf8.decode line := by
  unfold commandText
  simp only
  split
  next => exact Text.trim_infix _
  next =>
    exact (Text.trim_infix _).trans
      ((Text.dropEnding_prefix _ _).isInfix.trans (Text.trim_infix _))

theorem bareEnds_commandText (opener : Opener) (line : Bytes) :
    (commandText opener line).BareEnds := by
  unfold commandText
  simp only
  split
  next => exact Text.bareEnds_trim _
  next => exact Text.bareEnds_trim _

theorem writable_of_read {keyword : Text} {content : Bytes}
    (told : read keyword content = .command command) (filled : command ≠ []) : Writable command := by
  obtain ⟨opener, line, inside, rfl⟩ := exists_line_of_read told
  have piece := commandText_infix opener line
  refine ⟨Utf8.Decoded.of_infix ⟨line, rfl⟩ piece, fun member => ?_, filled,
    bareEnds_commandText opener line⟩
  have newlineIsAscii : newline < 0x80 := by decide
  exact inside ((Utf8.mem_decode_ascii newlineIsAscii line).1 (piece.subset member))

/-- A command that is written on a line is read off it again: with any opener and any blanks around
it, and in a block comment if it does not look closed by itself or a closing mark follows. All
commands that are read can be written, so that they can be written in any other style too. -/
theorem written_is_read (settings : Settings)
    (unspaced : settings.keyword.head? ≠ some (.char ' ')) :
    (∀ (layout : Layout) (command : Text) (tail : Bytes), Writable command →
      ((layout.opener.style = .block → ¬("*/" : Text) <:+ command) →
        read settings.keyword (layout.line settings.keyword command "" ++ newline :: tail) =
          .command command) ∧
      (layout.opener.style = .block →
        read settings.keyword (layout.line settings.keyword command "*/" ++ newline :: tail) =
          .command command)) ∧
    ∀ (keyword : Text) (content : Bytes) (command : Text),
      read keyword content = .command command → command ≠ [] →
        Writable command ∧ ∀ (layout : Layout) (tail : Bytes),
          read settings.keyword
            (layout.line settings.keyword command layout.opener.closing ++ newline :: tail) =
              .command command := by
  refine ⟨fun layout command tail writable => ⟨fun unclosed => ?_, fun block => ?_⟩,
    fun keyword content command told filled => ?_⟩
  · exact read_open_line layout unspaced writable unclosed tail
  · exact read_closed_line layout unspaced writable block tail
  · have writable := writable_of_read told filled
    exact ⟨writable, fun layout tail => read_styled_line layout unspaced writable tail⟩

def oddCommand : Text := [.char 'a', .stray 0xFF, .char '*', .char '/']

theorem writable_oddCommand : Writable oddCommand where
  decoded := ⟨[0x61, 0xFF, 0x2A, 0x2F], by decide⟩
  oneLine := by decide
  filled := by decide
  bare := ⟨fun _ start => by cases start; rfl, fun _ ending => by cases ending; rfl⟩

def oddLayout (style : CommentStyle) : Layout where
  opener := ⟨style, true⟩
  before := ⟨[0x20], fun _ member => Or.inl (List.mem_singleton.1 member)⟩
  after := ⟨[0x09], fun _ member => Or.inr (Or.inl (List.mem_singleton.1 member))⟩
  last := ⟨[0x0D], fun _ member => Or.inr (Or.inr (List.mem_singleton.1 member))⟩

theorem oddCommand_is_read :
    Settings.usual.keyword.head? ≠ some (.char ' ') ∧
      read Settings.usual.keyword
          ((oddLayout .hash).line Settings.usual.keyword oddCommand "" ++ [newline]) =
        .command oddCommand ∧
      read Settings.usual.keyword
          ((oddLayout .block).line Settings.usual.keyword oddCommand "*/" ++ [newline]) =
        .command oddCommand ∧
      read "go" (Utf8.encode "/*go  x */\n") = .command "x" ∧
      read Settings.usual.keyword
          ((oddLayout .slashes).line Settings.usual.keyword "x" "" ++ [newline]) =
        .command "x" := by
  have unspaced : Settings.usual.keyword.head? ≠ some (.char ' ') := by decide
  obtain ⟨written, rewritten⟩ := written_is_read Settings.usual unspaced
  have told : read "go" (Utf8.encode "/*go  x */\n") = .command "x" := by decide
  refine ⟨unspaced, ?_, ?_, told, ?_⟩
  · exact (written (oddLayout .hash) oddCommand [] writable_oddCommand).1 nofun
  · exact (written (oddLayout .block) oddCommand [] writable_oddCommand).2 rfl
  · exact (rewritten "go" _ "x" told (by decide)).2 (oddLayout .slashes) []

end GenWalk.FirstLine
