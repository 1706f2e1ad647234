import GenWalk.Text.Basic
import GenWalk.Text.Scan

/-!
Bytes as text and text as bytes. Reading accepts every byte string: the longest-standing rule of
UTF-8 decides which bytes form a character, and each byte outside a character stays stray. Writing
gives back the bytes that were read.
-/

namespace GenWalk

abbrev Bytes := List UInt8

namespace Utf8

def encodePoint (point : Nat) : Bytes :=
  if point < 0x80 then [.ofNat point]
  else if point < 0x800 then [.ofNat (0xC0 + point / 0x40), .ofNat (0x80 + point % 0x40)]
  else if point < 0x10000 then
    [.ofNat (0xE0 + point / 0x1000), .ofNat (0x80 + point / 0x40 % 0x40),
      .ofNat (0x80 + point % 0x40)]
  else
    [.ofNat (0xF0 + point / 0x40000), .ofNat (0x80 + point / 0x1000 % 0x40),
      .ofNat (0x80 + point / 0x40 % 0x40), .ofNat (0x80 + point % 0x40)]

def encodeChar (character : Char) : Bytes := encodePoint character.toNat

def promisedPoint (first : UInt8) (following : Bytes) : Nat :=
  let payload (position : Nat) := (following.getD position 0).toNat % 0x40
  let lead := first.toNat
  if lead < 0xC0 then lead
  else if lead < 0xE0 then lead % 0x20 * 0x40 + payload 0
  else if lead < 0xF0 then lead % 0x10 * 0x1000 + payload 0 * 0x40 + payload 1
  else lead % 8 * 0x40000 + payload 0 * 0x1000 + payload 1 * 0x40 + payload 2

/-- The character at the start of the bytes: the promised one, if its own bytes are what stands
there. -/
def leadingChar? (first : UInt8) (following : Bytes) : Option Char :=
  let character := Char.ofNat (promisedPoint first following)
  if (encodeChar character).isPrefixOf (first :: following) then some character else none

def decodeStep (first : UInt8) (following : Bytes) : Glyph × Nat :=
  match leadingChar? first following with
  | some character => (.char character, (encodeChar character).length - 1)
  | none => (.stray first, 0)

def decode (bytes : Bytes) : Text := scan decodeStep bytes

def encodeGlyph : Glyph → Bytes
  | .char value => encodeChar value
  | .stray value => [value]
  | .half value => encodePoint value.codePoint

def encode (text : Text) : Bytes := text.flatMap encodeGlyph

/-- A text with a glyph for each byte: the bytes of ASCII are characters, and all others stray. -/
def bytewise (bytes : Bytes) : Text :=
  bytes.map fun byte => if byte < 0x80 then .char (Char.ofNat byte.toNat) else .stray byte

def decodeStrict? (bytes : Bytes) : Option Text :=
  if (decode bytes).isClean then some (decode bytes) else none

end Utf8

end GenWalk
