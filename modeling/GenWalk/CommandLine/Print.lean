import GenWalk.Text.Scan
import GenWalk.Text.Utf8

/-!
What a command puts out: texts with colours, which only some outputs show. A text with a stray byte
in it cannot be put out at all.
-/

namespace GenWalk.CommandLine

inductive Color where
  | red
  | green
  | yellow
  | cyan
deriving DecidableEq, Inhabited

def Color.code : Color → String
  | red => "31"
  | green => "32"
  | yellow => "33"
  | cyan => "36"

structure Print where
  text : Text
  color? : Option Color := none
  bold : Bool := false
  endsLine : Bool := true
deriving DecidableEq, Inhabited

def escape : Glyph := .char '\x1b'

def sequence (code : String) : Text := escape :: Text.ofString ("[" ++ code ++ "m")

namespace Print

def isStyled (print : Print) : Bool := print.color?.isSome || print.bold

def styledText (print : Print) : Text :=
  if print.isStyled then
    ((print.color?.map fun color => sequence color.code).getD []) ++
      (if print.bold then sequence "1" else []) ++ print.text ++ sequence "0"
  else print.text

def isBetween (first last : Char) (glyph : Glyph) : Bool :=
  glyph.satisfies fun character => first ≤ character && character ≤ last

def sequenceLength? : Text → Option Nat
  | .char '[' :: rest =>
    let parameters := rest.takeWhile (isBetween '0' '?')
    let signs := (rest.drop parameters.length).takeWhile (isBetween ' ' '/')
    let length := parameters.length + signs.length
    if ((rest.drop length).head?).any (isBetween '@' '~') then some (length + 2) else none
  | _ => none

def sequenceStep (glyph : Glyph) (rest : Text) : Text × Nat :=
  if glyph = escape then
    match sequenceLength? rest with
    | some length => ([], length)
    | none => ([glyph], 0)
  else ([glyph], 0)

def bare (text : Text) : Text := (scan sequenceStep text).flatten

def shown (colored : Bool) (print : Print) : Text :=
  let whole := print.styledText ++ if print.endsLine then [.char '\n'] else []
  if colored then whole else bare whole

end Print

end GenWalk.CommandLine
