import GenWalk.Script.Basic
import GenWalk.Text.ByteRange
import GenWalk.Text.Scan
import GenWalk.Text.Utf8

/-!
Patterns of names: a star stands for any text, a question mark for any byte, brackets for one byte
of a set. Quoted glyphs stand for themselves. Texts are compared byte by byte.
-/

namespace GenWalk.Script

abbrev Marked := Glyph × Bool

inductive Pattern where
  | exactly (byte : UInt8)
  | one
  | many
  | among (within : Bool) (ranges : List ByteRange)
deriving DecidableEq, Inhabited

namespace Pattern

abbrev MarkedByte := UInt8 × Bool

def sign (character : Char) : MarkedByte := (UInt8.ofNat character.toNat, false)

def namedClass? (rest : List UInt8) : Option (List ByteRange × Nat) :=
  match rest with
  | 0x3A :: inside =>
    let name := inside.takeWhile (· ≠ 0x3A)
    if (inside.drop name.length).take 2 = [0x3A, 0x5D] then
      (ByteRange.named.lookup (String.ofList (name.map fun byte => Char.ofNat byte.toNat))).map
        (·, name.length + 3)
    else none
  | _ => none

def members : (fuel : Nat) → (isFirst : Bool) → List UInt8 → Option (List ByteRange × Nat)
  | 0, _, _ => none
  | _, _, [] => none
  | fuel + 1, isFirst, byte :: rest =>
    let further (ranges : List ByteRange) (covered : Nat) : Option (List ByteRange × Nat) :=
      (members fuel false (rest.drop (covered - 1))).map fun (others, length) =>
        (ranges ++ others, length + covered)
    if byte = 0x5D && !isFirst then some ([], 1)
    else match if byte = 0x5B then namedClass? rest else none, rest with
      | some (ranges, length), _ => further ranges (length + 1)
      | none, 0x2D :: last :: _ =>
        if last = 0x5D then further [(byte.toNat, byte.toNat)] 1
        else further [(byte.toNat, last.toNat)] 3
      | none, _ => further [(byte.toNat, byte.toNat)] 1

def bracket (rest : List MarkedByte) : Pattern × Nat :=
  let inverted := rest.head? = some (sign '!') || rest.head? = some (sign '^')
  let inside := if inverted then rest.drop 1 else rest
  match members (inside.length + 1) true (inside.map Prod.fst) with
  | some (ranges, length) => (.among (!inverted) ranges, length + if inverted then 1 else 0)
  | none => (.exactly 0x5B, 0)

def step (byte : MarkedByte) (rest : List MarkedByte) : Pattern × Nat :=
  if byte = sign '*' then (.many, 0)
  else if byte = sign '?' then (.one, 0)
  else if byte = sign '[' then bracket rest
  else (.exactly byte.1, 0)

def ofMarked (word : List Marked) : List Pattern :=
  scan step (word.flatMap fun (glyph, quoted) => (Utf8.encodeGlyph glyph).map (·, quoted))

def accepts : Pattern → UInt8 → Bool
  | exactly wanted, byte => wanted = byte
  | one, _ | many, _ => true
  | among within ranges, byte =>
    (ranges.any (·.contains byte)) == within

def ends (bytes : Bytes) : List Bytes := (List.range (bytes.length + 1)).map bytes.drop

def fitsBytes : List Pattern → Bytes → Bool
  | [], bytes => bytes.isEmpty
  | many :: rest, bytes => (ends bytes).any (fitsBytes rest)
  | _ :: _, [] => false
  | pattern :: rest, byte :: bytes => pattern.accepts byte && fitsBytes rest bytes

def fits (patterns : List Pattern) (text : Text) : Bool := fitsBytes patterns (Utf8.encode text)

def isOpen (patterns : List Pattern) : Bool :=
  patterns.any fun pattern => match pattern with
    | exactly _ => false
    | _ => true

end Pattern

def Trim.apply (trim : Trim) (patterns : List Pattern) (text : Text) : Text :=
  let bytes := Utf8.encode text
  let sizes := List.range (bytes.length + 1)
  let part (size : Nat) : Bytes :=
    if trim.atEnd then bytes.drop (bytes.length - size) else bytes.take size
  let fitting? := (if trim.longest then sizes.reverse else sizes).find? fun size =>
    Pattern.fitsBytes patterns (part size)
  match fitting? with
  | none => text
  | some size =>
    Utf8.decode (if trim.atEnd then bytes.take (bytes.length - size) else bytes.drop size)

end GenWalk.Script
