import GenWalk.Proofs.Directive.Writing

/-!
Keywords behind every opener. The rules for keywords let some begin with a space, and a space
behind the mark of a comment is taken for the opener's own. The main statement
`FirstLine.read_spelled` says what is read of a keyword in all its spellings: its directive, unless
the keyword begins with a space and the opener has none.
-/

namespace GenWalk.FirstLine

variable {settings : Settings} {opener : Opener}

theorem exists_mem_keyword_ne_space (settings : Settings) :
    ∃ byte ∈ Utf8.encode settings.keyword, byte ≠ 0x20 := by
  have accepted := settings.keyword_accepted
  have filled : settings.keyword.isBlank = false := by
    unfold Keyword.problem? at accepted
    grind
  obtain ⟨glyph, among, unblank⟩ := List.all_eq_false.1 filled
  have isChar := isChar_of_mem_keyword among
  cases glyph with
  | char value =>
    obtain ⟨byte, member⟩ := List.exists_mem_of_ne_nil _ (Utf8.encodeChar_ne_nil value)
    refine ⟨byte, List.mem_flatMap.2 ⟨.char value, among, member⟩, ?_⟩
    rintro rfl
    obtain rfl : value = ' ' := Utf8.eq_ofNat_of_mem_encodeChar member (by decide)
    exact unblank rfl
  | stray value => cases isChar
  | half value => cases isChar

theorem eq_first_of_shifted {first : UInt8} {others rest : Bytes}
    (shifted : first :: others <+: others ++ rest) : ∀ byte ∈ others, byte = first := by
  induction others with
  | nil => nofun
  | cons second others ih =>
    obtain ⟨rfl, later⟩ := List.cons_prefix_cons.1 shifted
    exact List.forall_mem_cons.2 ⟨rfl, ih later⟩

theorem read_swallowed (spaced : settings.keyword.head? = some (.char ' '))
    (unspaced : opener.spaced = false) (rest : Bytes) :
    read settings.keyword (opener.bytes ++ (Utf8.encode settings.keyword ++ rest)) = .ordinary := by
  obtain ⟨others, spelled⟩ := List.head?_eq_some_iff.1 spaced
  have written : Utf8.encode settings.keyword = 0x20 :: Utf8.encode others := by
    rw [spelled]
    rfl
  have opens : Opener.Opens ⟨opener.style, true⟩
      (opener.bytes ++ (Utf8.encode settings.keyword ++ rest)) (Utf8.encode others ++ rest) := by
    refine ⟨?_, nofun⟩
    rcases opener with ⟨style, _⟩
    obtain rfl := unspaced
    rw [written]
    cases style <;> rfl
  rw [read_of_opens opens, if_neg]
  intro there
  obtain ⟨byte, member, different⟩ := exists_mem_keyword_ne_space settings
  rw [written] at there member
  rcases List.mem_cons.1 member with first | later
  · exact different first
  · exact different (eq_first_of_shifted there byte later)

/-- Behind any of the six openers a keyword makes a directive of the line, whatever stands behind
it. The exception is a keyword that begins with a space, behind an opener without one: there the
line is ordinary. -/
theorem read_spelled (settings : Settings) (opener : Opener) {line : Bytes}
    (inside : newline ∉ line) (later : Bytes) :
    read settings.keyword
        (opener.bytes ++ (Utf8.encode settings.keyword ++ (line ++ newline :: later))) =
      if opener.spaced = false ∧ settings.keyword.head? = some (.char ' ') then .ordinary
      else .command (match opener.style with
        | .hash | .slashes => (Utf8.decode line).trim
        | .block => ((Utf8.decode line).trim.dropEnding "*/").trim) := by
  split
  next swallowed => exact read_swallowed swallowed.2 swallowed.1 _
  next parted =>
    have opens := opens_keyword opener
      (fun unspaced spaced => parted ⟨unspaced, spaced⟩) (line ++ newline :: later)
    rw [read_of_keyword opens, behindKeyword_ended inside]
    rcases opener with ⟨style, spaced⟩
    cases style <;> rfl

def indented : Settings := { Settings.usual with
  keyword := " gen"
  keyword_accepted := rfl }

def closedLine : Bytes := Utf8.encode " make *" ++ [0xFF] ++ Utf8.encode "\u3000*/"

theorem indented_spelled :
    newline ∉ closedLine ∧
      read indented.keyword (Utf8.encode "/*  gen" ++ closedLine ++ Utf8.encode "\n*/") =
        .command (Text.ofString "make *" ++ [.stray 0xFF]) ∧
      read indented.keyword (Utf8.encode "/* gen" ++ closedLine ++ Utf8.encode "\n*/") =
        .ordinary := by
  have inside : newline ∉ closedLine := by decide
  have told := read_spelled indented ⟨.block, true⟩ inside (Utf8.encode "*/")
  have missed := read_spelled indented ⟨.block, false⟩ inside (Utf8.encode "*/")
  rw [if_neg (by decide)] at told
  rw [if_pos (by decide)] at missed
  exact ⟨inside, told, missed⟩

/-- Without that space the line is taken for an ordinary comment, though nothing but the keyword and
a command stands behind its mark. -/
theorem indented_missed :
    ¬∀ (opener : Opener) (line : Bytes), newline ∉ line →
      read indented.keyword
          (opener.bytes ++ (Utf8.encode indented.keyword ++ (line ++ [newline]))) =
        .command (match opener.style with
          | .hash | .slashes => (Utf8.decode line).trim
          | .block => ((Utf8.decode line).trim.dropEnding "*/").trim) := by
  intro told
  have missed : read indented.keyword (Utf8.encode "# gen make\n") = .ordinary := by decide
  cases missed.symm.trans (told ⟨.hash, false⟩ (Utf8.encode " make") (by decide))

end GenWalk.FirstLine
