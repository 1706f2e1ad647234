import GenWalk.Proofs.Text.Utf8

/-!
Texts that are read off bytes. Writing gives back the bytes that were read (`encode_decode`), so that
a text which was once read off bytes is read again as it was written; the same is so of every piece
of it (`Decoded.of_infix`).
-/

namespace GenWalk.Utf8

/-- The text is what some bytes are read as. -/
def Decoded (text : Text) : Prop := ∃ bytes, decode bytes = text

theorem encodeChar_ne_nil (character : Char) : encodeChar character ≠ [] := by
  rw [encodeChar, encodePoint]
  grind

theorem encodeGlyph_decodeStep (first : UInt8) (following : Bytes) :
    encodeGlyph (decodeStep first following).1 ++ following.drop (decodeStep first following).2 =
      first :: following := by
  unfold decodeStep
  split
  next character found =>
    obtain ⟨rest, written⟩ := leadingChar?_eq_some_iff.1 found
    obtain ⟨byte, bytes, spelled⟩ := List.exists_cons_of_ne_nil (encodeChar_ne_nil character)
    rw [spelled, List.cons_append] at written
    obtain ⟨rfl, rfl⟩ := List.cons.inj written
    simp only [encodeGlyph, spelled, List.length_cons, Nat.add_sub_cancel, List.drop_left,
      List.cons_append]
  next => rfl

theorem encode_decode (bytes : Bytes) : encode (decode bytes) = bytes := by
  induction counted : bytes.length using Nat.strongRecOn generalizing bytes with
  | ind count ih =>
    cases bytes with
    | nil => rfl
    | cons first following =>
      have shorter : (following.drop (decodeStep first following).2).length < count := by
        rw [List.length_drop, ← counted, List.length_cons]
        omega
      rw [decode_cons, encode, List.flatMap_cons, ← encode, ih _ shorter _ rfl,
        encodeGlyph_decodeStep]

theorem encode_append (first second : Text) : encode (first ++ second) = encode first ++ encode second :=
  List.flatMap_append

variable {text : Text} {byte : UInt8}

theorem Decoded.decode_encode (decoded : Decoded text) : decode (encode text) = text := by
  obtain ⟨bytes, rfl⟩ := decoded
  rw [encode_decode]

theorem decode_char_append (character : Char) (bytes : Bytes) :
    decode (encodeChar character ++ bytes) = .char character :: decode bytes := by
  obtain ⟨first, others, spelled⟩ := List.exists_cons_of_ne_nil (encodeChar_ne_nil character)
  have found : leadingChar? first (others ++ bytes) = some character := by
    rw [leadingChar?_eq_some_iff, spelled]
    exact ⟨bytes, rfl⟩
  rw [spelled, List.cons_append, decode_cons, decodeStep, found]
  simp only [spelled, List.length_cons, Nat.add_sub_cancel, List.drop_left]

theorem decode_encode_append (clean : text.isClean) (bytes : Bytes) :
    decode (encode text ++ bytes) = text ++ decode bytes := by
  induction text with
  | nil => rfl
  | cons glyph rest ih =>
    obtain ⟨isChar, later⟩ := Bool.and_eq_true_iff.1 clean
    rw [encode, List.flatMap_cons, ← encode, List.append_assoc]
    cases glyph with
    | char value => rw [encodeGlyph, decode_char_append, ih later, List.cons_append]
    | stray value => cases isChar
    | half value => cases isChar

theorem encode_prefix_iff {first second : Text} (clean : first.isClean) (clean' : second.isClean) :
    encode first <+: encode second ↔ first <+: second := by
  constructor
  · rintro ⟨bytes, written⟩
    refine ⟨decode bytes, ?_⟩
    rw [← decode_encode_append clean, written, ← List.append_nil (encode second),
      decode_encode_append clean', show decode [] = [] from rfl, List.append_nil]
  · rintro ⟨rest, rfl⟩
    rw [encode_append]
    exact List.prefix_append _ _

theorem encodeChar_of_ascii (ascii : byte < 0x80) : encodeChar (Char.ofNat byte.toNat) = [byte] := by
  have small : byte.toNat < 0x80 := UInt8.lt_iff_toNat_lt.1 ascii
  have valid : byte.toNat.isValidChar := Or.inl (Nat.lt_trans small (by decide))
  have same : (Char.ofNat byte.toNat).toNat = byte.toNat := by
    rw [Char.ofNat, dif_pos valid]
    rfl
  rw [encodeChar, same, encodePoint, if_pos small, UInt8.ofNat_toNat]

theorem decode_ascii_cons (ascii : byte < 0x80) (bytes : Bytes) :
    decode (byte :: bytes) = .char (Char.ofNat byte.toNat) :: decode bytes := by
  rw [← decode_char_append, encodeChar_of_ascii ascii, List.singleton_append]

theorem decode_of_ascii {bytes : Bytes} (ascii : ∀ byte ∈ bytes, byte < 0x80) :
    decode bytes = bytes.map fun byte => .char (Char.ofNat byte.toNat) := by
  induction bytes with
  | nil => rfl
  | cons byte others ih =>
    rw [decode_ascii_cons (ascii byte List.mem_cons_self), List.map_cons,
      ih fun other member => ascii other (List.mem_cons_of_mem byte member)]

theorem decode_ascii_append {before : Bytes} (ascii : ∀ byte ∈ before, byte < 0x80) (bytes : Bytes) :
    decode (before ++ bytes) = decode before ++ decode bytes := by
  induction before with
  | nil => rfl
  | cons byte others ih =>
    have first := ascii byte List.mem_cons_self
    rw [List.cons_append, decode_ascii_cons first, decode_ascii_cons first, List.cons_append,
      ih fun other member => ascii other (List.mem_cons_of_mem byte member)]

theorem decode_append_of_ascii {after : Bytes} (ascii : ∀ byte ∈ after, byte < 0x80)
    (bytes : Bytes) : decode (bytes ++ after) = decode bytes ++ decode after := by
  cases after with
  | nil => rw [List.append_nil, show decode [] = [] from rfl, List.append_nil]
  | cons byte others => exact decode_append_ascii (ascii byte List.mem_cons_self) bytes

theorem mem_decode_ascii (ascii : byte < 0x80) (bytes : Bytes) :
    .char (Char.ofNat byte.toNat) ∈ decode bytes ↔ byte ∈ bytes := by
  constructor
  · intro member
    have written : byte ∈ encode (decode bytes) :=
      List.mem_flatMap.2 ⟨_, member, by simp [encodeGlyph, encodeChar_of_ascii ascii]⟩
    rwa [encode_decode] at written
  · intro member
    obtain ⟨before, after, rfl⟩ := List.append_of_mem member
    rw [decode_append_ascii ascii, decode_ascii_cons ascii]
    exact List.mem_append_right _ List.mem_cons_self

theorem Decoded.tail {glyph : Glyph} (decoded : Decoded (glyph :: text)) : Decoded text := by
  obtain ⟨bytes, told⟩ := decoded
  cases bytes with
  | nil => cases told
  | cons first following =>
    rw [decode_cons] at told
    exact ⟨_, (List.cons.inj told).2⟩

theorem Decoded.of_append_right {before : Text} (decoded : Decoded (before ++ text)) :
    Decoded text := by
  induction before with
  | nil => exact decoded
  | cons glyph others ih => exact ih decoded.tail

theorem leadingChar?_of_prefix {first : UInt8} {following later : Bytes}
    (absent : leadingChar? first (following ++ later) = none) :
    leadingChar? first following = none := by
  rw [Option.eq_none_iff_forall_not_mem] at absent ⊢
  intro character found
  apply absent character
  exact leadingChar?_eq_some_iff.2 ((leadingChar?_eq_some_iff.1 found).trans ⟨later, rfl⟩)

theorem Decoded.of_append_left {after : Text} (decoded : Decoded (text ++ after)) :
    Decoded text := by
  induction text with
  | nil => exact ⟨[], rfl⟩
  | cons glyph rest ih =>
    -- The bytes of the rest are known by the induction; what is open is the step before them, which
    -- may see fewer bytes than it did.
    obtain ⟨bytes, told⟩ := decoded
    cases bytes with
    | nil => cases told
    | cons first following =>
      rw [decode_cons, List.cons_append] at told
      obtain ⟨read, left⟩ := List.cons.inj told
      have again : decode (encode rest) = rest := (ih ⟨_, left⟩).decode_encode
      unfold decodeStep at read left
      split at read
      next character found =>
        subst read
        exact ⟨encodeChar character ++ encode rest, by rw [decode_char_append, again]⟩
      next absent =>
        subst read
        simp only [absent, List.drop_zero] at left
        have behind : following = encode rest ++ encode after := by
          rw [← encode_decode following, left, encode_append]
        rw [behind] at absent
        refine ⟨first :: encode rest, ?_⟩
        rw [decode_cons, decodeStep, leadingChar?_of_prefix absent]
        simp only [List.drop_zero, again]

theorem Decoded.of_infix {piece : Text} (decoded : Decoded text) (inside : piece <:+: text) :
    Decoded piece := by
  obtain ⟨before, after, rfl⟩ := inside
  exact decoded.of_append_left.of_append_right

end GenWalk.Utf8
