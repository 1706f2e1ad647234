import GenWalk.Text.Quoted
import GenWalk.Value

/-!
JSON documents, and their text in ASCII with two spaces to a level.
-/

namespace GenWalk

inductive Json where
  | null
  | boolean (value : Bool)
  | integer (value : Int)
  | text (value : Text)
  | list (items : List Json)
  | object (fields : List (Text × Json))
deriving Inhabited

namespace Json

def ofOption (document : α → Json) : Option α → Json
  | none => null
  | some value => document value

def ofTexts (texts : List Text) : Json := list (texts.map text)

def escapedUnit (value : Nat) : Text := "\\u" ++ Text.hexadecimal 4 value

def escapedPoint (point : Nat) : Text :=
  if point < 0x10000 then escapedUnit point
  else escapedUnit (0xD800 + (point - 0x10000) / 0x400) ++
    escapedUnit (0xDC00 + (point - 0x10000) % 0x400)

def escapedGlyph (glyph : Glyph) : Text :=
  let point := glyph.codePoint
  if glyph = .char '"' then "\\\""
  else if glyph = .char '\\' then "\\\\"
  else if glyph = .char '\n' then "\\n"
  else if glyph = .char '\r' then "\\r"
  else if glyph = .char '\t' then "\\t"
  else if point = 0x0C then "\\f"
  else if point = 0x08 then "\\b"
  else if 0x20 ≤ point && point ≤ 0x7E then [glyph]
  else escapedPoint point

def renderedText (value : Text) : Text :=
  [.char '"'] ++ value.flatMap escapedGlyph ++ [.char '"']

def indent (level : Nat) : Text := .char '\n' :: List.replicate (2 * level) (.char ' ')

def bracketed (level : Nat) (opening closing : Char) : List Text → Text
  | [] => [.char opening, .char closing]
  | parts => .char opening :: indent (level + 1) ++
      Text.join (.char ',' :: indent (level + 1)) parts ++ indent level ++ [.char closing]

mutual

def renderAt (level : Nat) : Json → Text
  | null => "null"
  | boolean value => if value then "true" else "false"
  | integer value => Text.ofInt value
  | text value => renderedText value
  | list items => bracketed level '[' ']' (renderItems (level + 1) items)
  | object fields => bracketed level '\x7b' '\x7d' (renderFields (level + 1) fields)

def renderItems (level : Nat) : List Json → List Text
  | [] => []
  | item :: rest => renderAt level item :: renderItems level rest

def renderFields (level : Nat) : List (Text × Json) → List Text
  | [] => []
  | (name, value) :: rest =>
    (renderedText name ++ ": " ++ renderAt level value) :: renderFields level rest

end

def render (document : Json) : Text := document.renderAt 0

end Json

mutual

/-- Data as a document, as far as a document has room for it: what has no form there is null, and a
number with a fraction is cut to an integer. -/
def Value.toJson : Value → Json
  | .boolean value => .boolean value
  | .integer value => .integer value
  | .text value => .text value
  | .list items | .set items => .list (Value.toJsonList items)
  | .map entries => .object (Value.toJsonFields entries)
  | .real value => .ofOption .integer ((Dyadic.ofFloat? value).map fun number =>
      number.mantissa * 2 ^ number.exponent.toNat / 2 ^ (-number.exponent).toNat)
  | .bytes value => .text (Utf8.decode value)
  | .null | .date _ | .timestamp _ => .null

def Value.toJsonList : List Value → List Json
  | [] => []
  | item :: rest => item.toJson :: Value.toJsonList rest

def Value.toJsonFields : List (Value × Value) → List (Text × Json)
  | [] => []
  | (.text name, value) :: rest => (name, value.toJson) :: Value.toJsonFields rest
  | _ :: rest => Value.toJsonFields rest

end

end GenWalk
