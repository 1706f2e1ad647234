import GenWalk.Text.Basic

/-!
White space, and what is cut at it: the two ends of a text, and the words between runs of blanks.
-/

namespace GenWalk

/-- The characters that Unicode counts as space, and the four separators of ASCII. -/
def isBlank (character : Char) : Bool :=
  let point := character.toNat
  (0x09 ≤ point && point ≤ 0x0D) || (0x1C ≤ point && point ≤ 0x20) || point == 0x85 ||
    point == 0xA0 || point == 0x1680 || (0x2000 ≤ point && point ≤ 0x200A) || point == 0x2028 ||
    point == 0x2029 || point == 0x202F || point == 0x205F || point == 0x3000

namespace Glyph

def isBlank (glyph : Glyph) : Bool := glyph.satisfies GenWalk.isBlank

end Glyph

namespace Text

def trimBy (property : Glyph → Bool) (text : Text) : Text :=
  ((text.dropWhile property).reverse.dropWhile property).reverse

def trim (text : Text) : Text := text.trimBy Glyph.isBlank

def isBlank (text : Text) : Bool := text.all Glyph.isBlank

def words : Text → List Text
  | [] => []
  | glyph :: rest =>
    if glyph.isBlank then words rest
    else match rest, words rest with
      | next :: _, word :: others =>
        if next.isBlank then [glyph] :: word :: others else (glyph :: word) :: others
      | _, others => [glyph] :: others

end Text

end GenWalk
