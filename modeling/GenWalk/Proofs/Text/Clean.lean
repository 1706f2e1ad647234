import GenWalk.Text.Basic

/-!
Texts of characters only. They are closed under all that puts texts together.
-/

namespace GenWalk.Text

@[simp] theorem isClean_nil : isClean [] = true := rfl

@[simp] theorem isClean_cons (glyph : Glyph) (text : Text) :
    isClean (glyph :: text) = (glyph.isChar && isClean text) := rfl

@[simp] theorem isClean_append (first second : Text) :
    isClean (first ++ second) = (isClean first && isClean second) := List.all_append

@[simp] theorem isClean_ofString (string : String) : isClean (ofString string) = true := by
  simp [isClean, ofString, Glyph.isChar, Glyph.char?]

@[simp] theorem isClean_char (character : Char) : (Glyph.char character).isChar = true := rfl

@[simp] theorem isClean_replicate (count : Nat) (character : Char) :
    isClean (List.replicate count (.char character)) = true := by
  rw [isClean, List.all_replicate]
  split <;> rfl

@[simp] theorem isClean_ofInt (value : Int) : isClean (ofInt value) = true := isClean_ofString _

end GenWalk.Text
