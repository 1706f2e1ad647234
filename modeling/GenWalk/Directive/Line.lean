import GenWalk.Opener
import GenWalk.Text.Blank

/-!
The line that carries a directive: the first line of a file, where a comment opener and a keyword
stand before a command. Nothing behind the first line is looked at, except to find out that a line
which has the keyword never ends.
-/

namespace GenWalk

/-- What the start of a file says. -/
inductive FirstLine where
  | ordinary
  | command (text : Text)
  | unterminated
deriving DecidableEq, Inhabited

namespace FirstLine

def peekLength : Nat := 3

def newline : UInt8 := 0x0A

def leadingLine (bytes : Bytes) : Bytes :=
  bytes.takeWhile (· != newline) ++ (bytes.dropWhile (· != newline)).take 1

def commandText (opener : Opener) (line : Bytes) : Text :=
  let text := (Utf8.decode line).trim
  if opener.closing.isEmpty then text else (text.dropEnding opener.closing).trim

/-- Reads the bytes of a file: a peek, what the keyword needs beyond it, and the line after the
keyword. What the peek has read behind the opener must be part of the keyword, so a keyword shorter
than that is never found. -/
def read (keyword : Text) (content : Bytes) : FirstLine :=
  let (head, behindHead) := content.splitAt peekLength
  if head.length < peekLength then .ordinary
  else match Opener.ofBytes? head with
    | none => .ordinary
    | some opener =>
      let expected := Utf8.encode keyword
      let begun := head.drop opener.length
      let (missing, behindKeyword) := behindHead.splitAt (expected.length - begun.length)
      if begun ++ missing ≠ expected then .ordinary
      else
        let line := leadingLine behindKeyword
        if line.getLast? = some newline then .command (commandText opener line) else .unterminated

/-- The command that is to be run; a file without directive and a directive without command both
have the empty one. -/
def command? : FirstLine → Option Text
  | ordinary => some []
  | command text => some text
  | unterminated => none

end FirstLine

end GenWalk
