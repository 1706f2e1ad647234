import GenWalk.Text.Utf8

/-!
Ranges of bytes, and the sets of bytes that patterns call by name. Only the bytes of ASCII belong to
a named set.
-/

namespace GenWalk

abbrev ByteRange := Nat × Nat

namespace ByteRange

def contains (range : ByteRange) (byte : UInt8) : Bool :=
  range.1 ≤ byte.toNat && byte.toNat ≤ range.2

def named : List (String × List ByteRange) := [
  ("alpha", [(0x41, 0x5A), (0x61, 0x7A)]), ("digit", [(0x30, 0x39)]),
  ("alnum", [(0x30, 0x39), (0x41, 0x5A), (0x61, 0x7A)]), ("upper", [(0x41, 0x5A)]),
  ("lower", [(0x61, 0x7A)]), ("space", [(0x09, 0x0D), (0x20, 0x20)]),
  ("blank", [(0x09, 0x09), (0x20, 0x20)]), ("cntrl", [(0x00, 0x1F), (0x7F, 0x7F)]),
  ("print", [(0x20, 0x7E)]), ("graph", [(0x21, 0x7E)]),
  ("punct", [(0x21, 0x2F), (0x3A, 0x40), (0x5B, 0x60), (0x7B, 0x7E)]),
  ("xdigit", [(0x30, 0x39), (0x41, 0x46), (0x61, 0x66)])]

end ByteRange

end GenWalk
