import GenWalk.Text.Utf8

/-!
Comment openers: the marks with which the first line of a file may begin, each with at most one
space after it.
-/

namespace GenWalk

inductive CommentStyle where
  | hash
  | slashes
  | block
deriving DecidableEq, Inhabited

namespace CommentStyle

def mark : CommentStyle → Text
  | hash => "#"
  | slashes => "//"
  | block => "/*"

def closing : CommentStyle → Text
  | block => "*/"
  | _ => ""

end CommentStyle

/-- The opener of a comment: its style, and whether a space follows the mark. -/
structure Opener where
  style : CommentStyle
  spaced : Bool
deriving DecidableEq, Inhabited

namespace Opener

def text (opener : Opener) : Text :=
  opener.style.mark ++ if opener.spaced then [.char ' '] else []

def length (opener : Opener) : Nat := opener.text.length

def closing (opener : Opener) : Text := opener.style.closing

def ofBytes? (bytes : Bytes) : Option Opener :=
  let styled (style : CommentStyle) (rest : Bytes) : Opener := ⟨style, rest.head? == some 0x20⟩
  match bytes with
  | 0x23 :: rest => some (styled .hash rest)
  | 0x2F :: 0x2F :: rest => some (styled .slashes rest)
  | 0x2F :: 0x2A :: rest => some (styled .block rest)
  | _ => none

end Opener

end GenWalk
