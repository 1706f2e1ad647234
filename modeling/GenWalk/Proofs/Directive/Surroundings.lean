import GenWalk.Proofs.Directive.Writing

/-!
What stands around a command in the bytes of its file. The command is decoded and cut at blanks, but
its own bytes stand in the file as they are, those that are no character included
(`FirstLine.command_surrounded`).
-/

namespace GenWalk.FirstLine

/-- What may stand between a command and the end of its line: blanks, and in a block comment one
closing mark among them. -/
inductive Trailing : CommentStyle → Text → Prop where
  | blanks {style : CommentStyle} {text : Text} (blank : text.isBlank = true) : Trailing style text
  | closed {inner outer : Text} (innerBlank : inner.isBlank = true)
      (outerBlank : outer.isBlank = true) : Trailing .block (inner ++ "*/" ++ outer)

structure Surrounds (settings : Settings) (content : Bytes) (command : Text) (opener : Opener)
    (before after tail : Bytes) : Prop where
  whole : content = opener.bytes ++ Utf8.encode settings.keyword ++ before ++ Utf8.encode command ++
    (after ++ [newline]) ++ tail
  oneLine : newline ∉ opener.bytes ++ Utf8.encode settings.keyword ++ before ++
    Utf8.encode command ++ after
  blank : (Utf8.decode before).isBlank = true
  trailing : Trailing opener.style (Utf8.decode after)

theorem commandText_surrounded (opener : Opener) (line : Bytes) : ∃ before after : Text,
    Utf8.decode line = before ++ commandText opener line ++ after ∧ before.isBlank = true ∧
      Trailing opener.style after := by
  obtain ⟨before, after, blankBefore, blankAfter, whole⟩ :=
    Text.exists_blanks_around (Utf8.decode line)
  rcases opener with ⟨style, spaced⟩
  cases style with
  | hash => exact ⟨before, after, whole, blankBefore, .blanks blankAfter⟩
  | slashes => exact ⟨before, after, whole, blankBefore, .blanks blankAfter⟩
  | block =>
    obtain ⟨closing, known, marked⟩ := Text.exists_dropped_ending (Utf8.decode line).trim "*/"
    obtain ⟨first, last, blankFirst, blankLast, inside⟩ :=
      Text.exists_blanks_around ((Utf8.decode line).trim.dropEnding "*/")
    refine ⟨before ++ first, last ++ closing ++ after, ?_, ?_, ?_⟩
    · calc Utf8.decode line
        _ = before ++ ((Utf8.decode line).trim.dropEnding "*/" ++ closing) ++ after := by
          rw [← marked]
          exact whole
        _ = before ++ (first ++ ((Utf8.decode line).trim.dropEnding "*/").trim ++ last ++ closing) ++
            after := by rw [← inside]
        _ = before ++ first ++ commandText ⟨.block, spaced⟩ line ++ (last ++ closing ++ after) := by
          simp only [List.append_assoc]
          rfl
    · rw [Text.isBlank_append, blankBefore, blankFirst]
      rfl
    · rcases known with rfl | rfl
      · refine .blanks ?_
        rw [List.append_nil, Text.isBlank_append, blankLast, blankAfter]
        rfl
      · exact .closed blankLast blankAfter

variable {settings : Settings} {content : Bytes} {command : Text}

theorem opens_of_read (told : read settings.keyword content = .command command) :
    ∃ opener line later,
      Opener.Opens opener content (Utf8.encode settings.keyword ++ (line ++ newline :: later)) ∧
      newline ∉ line ∧ commandText opener line = command := by
  by_cases found : ∃ opener rest, Opener.Opens opener content (Utf8.encode settings.keyword ++ rest)
  · obtain ⟨opener, rest, opens⟩ := found
    rw [read_of_keyword opens] at told
    by_cases ended : newline ∈ rest
    · obtain ⟨line, later, rfl, inside⟩ := List.eq_append_cons_of_mem ended
      rw [behindKeyword_ended inside] at told
      exact ⟨opener, line, later, opens, inside, FirstLine.command.inj told⟩
    · rw [behindKeyword_unended ended] at told
      cases told
  · rw [read_ordinary fun opener rest opens => found ⟨opener, rest, opens⟩] at told
    cases told

/-- The bytes of a command stand in its file as they are, between the keyword and the first newline,
with nothing around them but blanks and, in a block comment, one closing mark. The command itself has
no blank at its ends and fits on a line, and its bytes are read as nothing else. -/
theorem command_surrounded (told : read settings.keyword content = .command command) :
    (∃ opener before after tail, Surrounds settings content command opener before after tail) ∧
      Utf8.decode (Utf8.encode command) = command ∧ command.BareEnds ∧ .char '\n' ∉ command := by
  obtain ⟨opener, line, later, opens, inside, same⟩ := opens_of_read told
  obtain ⟨before, after, whole, blank, trailing⟩ := commandText_surrounded opener line
  rw [same] at whole
  have decoded : Utf8.Decoded (before ++ command ++ after) := ⟨line, whole⟩
  have decodedBefore := decoded.of_append_left.of_append_left.decode_encode
  have decodedCommand := decoded.of_append_left.of_append_right.decode_encode
  have decodedAfter := decoded.of_append_right.decode_encode
  have spelled : line = Utf8.encode before ++ Utf8.encode command ++ Utf8.encode after := by
    rw [← Utf8.encode_append, ← Utf8.encode_append, ← whole, Utf8.encode_decode]
  have surrounds : Surrounds settings content command opener (Utf8.encode before)
      (Utf8.encode after) later := by
    refine ⟨?_, ?_, by rw [decodedBefore]; exact blank, by rw [decodedAfter]; exact trailing⟩
    · rw [opens.1, spelled]
      simp only [List.append_assoc, List.cons_append, List.nil_append]
    · rw [spelled] at inside
      simp only [List.mem_append, not_or] at inside ⊢
      exact ⟨⟨⟨⟨newline_not_mem_opener opener, newline_not_mem_keyword settings⟩, inside.1.1⟩,
        inside.1.2⟩, inside.2⟩
  have fits : .char '\n' ∉ command := by
    intro member
    have newlineIsAscii : newline < 0x80 := by decide
    have piece := commandText_infix opener line
    rw [same] at piece
    exact inside ((Utf8.mem_decode_ascii newlineIsAscii line).1 (piece.subset member))
  exact ⟨⟨opener, _, _, later, surrounds⟩, decodedCommand, same ▸ bareEnds_commandText opener line,
    fits⟩

def smudgedContent : Bytes :=
  Utf8.encode "/* helm:generate \u3000e" ++ [0xFF, 0xC2] ++ Utf8.encode "\u00A0*/\u2003\nx\n"

def smudgedCommand : Text := [.char 'e', .stray 0xFF, .stray 0xC2]

theorem smudged_surrounded :
    read Settings.usual.keyword smudgedContent = .command smudgedCommand ∧
      ∃ opener before after tail,
        Surrounds .usual smudgedContent smudgedCommand opener before after tail := by
  have told : read Settings.usual.keyword smudgedContent = .command smudgedCommand := by decide
  exact ⟨told, (command_surrounded told).1⟩

end GenWalk.FirstLine
