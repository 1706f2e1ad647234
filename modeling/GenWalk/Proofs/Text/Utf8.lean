import GenWalk.Text.Utf8

/-!
How bytes are read as characters. A character is read exactly where its own bytes stand
(`leadingChar?_eq_some_iff`), and a byte of ASCII ends whatever stands before it: the main statement
`decode_append_ascii` says that the text in front of it is read as if it stood alone.
-/

namespace GenWalk.Utf8

theorem toNat_lt (character : Char) : character.toNat < 0x110000 := by
  rcases character.valid with low | high
  · exact Nat.lt_trans low (by decide)
  · exact high.2

theorem promisedPoint_of_encodeChar {character : Char} {first : UInt8} {following rest : Bytes}
    (written : encodeChar character ++ rest = first :: following) :
    promisedPoint first following = character.toNat := by
  have bound := toNat_lt character
  unfold encodeChar encodePoint at written
  split at written
  next =>
    simp only [List.cons_append, List.nil_append, List.cons.injEq] at written
    obtain ⟨rfl, rfl⟩ := written
    simp only [promisedPoint, UInt8.toNat_ofNat']
    rw [if_pos (by omega)]
    omega
  next =>
    split at written
    next =>
      simp only [List.cons_append, List.nil_append, List.cons.injEq] at written
      obtain ⟨rfl, rfl⟩ := written
      simp only [promisedPoint, UInt8.toNat_ofNat', List.getD_cons_zero]
      rw [if_neg (by omega), if_pos (by omega)]
      omega
    next =>
      split at written
      next =>
        simp only [List.cons_append, List.nil_append, List.cons.injEq] at written
        obtain ⟨rfl, rfl⟩ := written
        simp only [promisedPoint, UInt8.toNat_ofNat', List.getD_cons_zero, List.getD_cons_succ]
        rw [if_neg (by omega), if_neg (by omega), if_pos (by omega)]
        omega
      next =>
        simp only [List.cons_append, List.nil_append, List.cons.injEq] at written
        obtain ⟨rfl, rfl⟩ := written
        simp only [promisedPoint, UInt8.toNat_ofNat', List.getD_cons_zero, List.getD_cons_succ]
        rw [if_neg (by omega), if_neg (by omega), if_neg (by omega)]
        omega

/-- A character is read where its bytes stand, and nowhere else. -/
theorem leadingChar?_eq_some_iff {first : UInt8} {following : Bytes} {character : Char} :
    leadingChar? first following = some character ↔ encodeChar character <+: first :: following := by
  unfold leadingChar?
  simp only
  constructor
  · intro found
    split at found
    next there =>
      obtain rfl := Option.some.inj found
      exact List.isPrefixOf_iff_prefix.1 there
    next => cases found
  · rintro ⟨rest, written⟩
    rw [promisedPoint_of_encodeChar written, Char.ofNat_toNat]
    rw [if_pos (List.isPrefixOf_iff_prefix.2 ⟨rest, written⟩)]

theorem not_ascii_of_mem_tail {character : Char} {byte : UInt8}
    (member : byte ∈ (encodeChar character).tail) : ¬byte < 0x80 := by
  have bound := toNat_lt character
  rw [UInt8.lt_iff_toNat_lt]
  show ¬byte.toNat < 128
  unfold encodeChar encodePoint at member
  split at member
  next => cases member
  next =>
    split at member
    next =>
      simp only [List.tail_cons, List.mem_singleton] at member
      subst member
      rw [UInt8.toNat_ofNat']
      omega
    next =>
      split at member
      next =>
        simp only [List.tail_cons, List.mem_cons, List.not_mem_nil, or_false] at member
        rcases member with rfl | rfl <;> rw [UInt8.toNat_ofNat'] <;> omega
      next =>
        simp only [List.tail_cons, List.mem_cons, List.not_mem_nil, or_false] at member
        rcases member with rfl | rfl | rfl <;> rw [UInt8.toNat_ofNat'] <;> omega

theorem toNat_of_mem_encodeChar {character : Char} {byte : UInt8}
    (member : byte ∈ encodeChar character) (ascii : byte < 0x80) : character.toNat = byte.toNat := by
  have small : byte.toNat < 0xC0 := Nat.lt_trans (UInt8.lt_iff_toNat_lt.1 ascii) (by decide)
  have notLater : byte ∉ (encodeChar character).tail := fun later => not_ascii_of_mem_tail later ascii
  cases written : encodeChar character with
  | nil =>
    rw [written] at member
    cases member
  | cons first following =>
    rw [written] at member notLater
    obtain rfl : byte = first := (List.mem_cons.1 member).resolve_right notLater
    have whole : encodeChar character ++ [] = byte :: following := by rw [List.append_nil, written]
    rw [← promisedPoint_of_encodeChar whole, promisedPoint, if_pos small]

theorem eq_ofNat_of_mem_encodeChar {character : Char} {byte : UInt8}
    (member : byte ∈ encodeChar character) (ascii : byte < 0x80) :
    character = Char.ofNat byte.toNat := by
  rw [← toNat_of_mem_encodeChar member ascii, Char.ofNat_toNat]

variable {first byte : UInt8} {following later : Bytes}

theorem leadingChar?_append_ascii (ascii : byte < 0x80) :
    leadingChar? first (following ++ byte :: later) = leadingChar? first following := by
  apply Option.ext
  intro character
  rw [leadingChar?_eq_some_iff, leadingChar?_eq_some_iff]
  constructor
  · intro there
    by_cases short : (encodeChar character).length ≤ (first :: following).length
    · exact List.prefix_of_prefix_length_le there (List.prefix_append _ _) short
    · exfalso
      have upTo : first :: following ++ [byte] <+: first :: (following ++ byte :: later) :=
        ⟨later, by simp⟩
      have reaching : (first :: following ++ [byte]).length ≤ (encodeChar character).length := by
        rw [List.length_append, List.length_singleton]
        omega
      obtain ⟨rest, written⟩ := List.prefix_of_prefix_length_le upTo there reaching
      have member : byte ∈ (encodeChar character).tail := by
        rw [← written]
        simp
      exact not_ascii_of_mem_tail member ascii
  · intro there
    exact there.trans ⟨byte :: later, rfl⟩

theorem decodeStep_append_ascii (ascii : byte < 0x80) :
    decodeStep first (following ++ byte :: later) = decodeStep first following := by
  simp only [decodeStep, leadingChar?_append_ascii ascii]

theorem covered_le : (decodeStep first following).2 ≤ following.length := by
  unfold decodeStep
  split
  next character found =>
    have short := (leadingChar?_eq_some_iff.1 found).length_le
    simp only [List.length_cons] at short ⊢
    omega
  next => exact Nat.zero_le _

theorem decode_cons (first : UInt8) (following : Bytes) :
    decode (first :: following) = (decodeStep first following).1 ::
      decode (following.drop (decodeStep first following).2) :=
  scan_cons first following

theorem decode_append_ascii (ascii : byte < 0x80) (bytes : Bytes) :
    decode (bytes ++ byte :: later) = decode bytes ++ decode (byte :: later) := by
  -- A step takes away one byte or more, so that the induction is on the number of bytes.
  induction counted : bytes.length using Nat.strongRecOn generalizing bytes with
  | ind count ih =>
    cases bytes with
    | nil => rfl
    | cons first following =>
      have inside : (decodeStep first following).2 ≤ following.length := covered_le
      have shorter : (following.drop (decodeStep first following).2).length < count := by
        rw [List.length_drop, ← counted]
        simp only [List.length_cons]
        omega
      have rest := ih _ shorter (following.drop (decodeStep first following).2) rfl
      rw [List.cons_append, decode_cons, decode_cons, decodeStep_append_ascii ascii,
        List.drop_append_of_le_length inside, rest, List.cons_append]

end GenWalk.Utf8
