import GenWalk.Text.Printable

/-!
Text in quotes, on one line and in visible characters only: what does not show is spelled as an
escape, and so is the quote itself.
-/

namespace GenWalk.Text

def hexadecimal (width number : Nat) : Text :=
  let digits := (Nat.toDigits 16 number).map Glyph.char
  List.replicate (width - digits.length) (.char '0') ++ digits

def numericEscape (point : Nat) : Text :=
  if point < 0x100 then "\\x" ++ hexadecimal 2 point
  else if point < 0x10000 then "\\u" ++ hexadecimal 4 point
  else "\\U" ++ hexadecimal 8 point

def quoteGlyph (mark : Char) : Glyph → Text
  | .char character =>
    if character = mark || character = '\\' then [.char '\\', .char character]
    else if character = '\t' then "\\t"
    else if character = '\n' then "\\n"
    else if character = '\r' then "\\r"
    else if isPrintable character then [.char character]
    else numericEscape character.toNat
  | glyph => numericEscape glyph.codePoint

/-- Single quotes are preferred; a text that holds single quotes and no double ones gets double. -/
def quotationMark (text : Text) : Char :=
  if text.contains (.char '\x27') && !text.contains (.char '"') then '"' else '\x27'

def quoted (text : Text) : Text :=
  let mark := text.quotationMark
  .char mark :: text.flatMap (quoteGlyph mark) ++ [.char mark]

def quotedList (texts : List Text) : Text := "[" ++ join ", " (texts.map quoted) ++ "]"

def refusedFrom (start : Nat) (points : List Nat) : Text :=
  let run := (points.drop start).takeWhile isSurrogate
  match run with
  | [point] => "'utf-8' codec can't encode character '" ++ numericEscape point ++
      "' in position " ++ ofNat start ++ ": surrogates not allowed"
  | _ => "'utf-8' codec can't encode characters in position " ++ ofNat start ++ "-" ++
      ofNat (start + run.length - 1) ++ ": surrogates not allowed"

end GenWalk.Text
