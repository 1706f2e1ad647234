import GenWalk.Text.Quoted

/-!
What the operating system answers when it refuses: a numbered error, with the path it speaks of, or
the refusal of a name that no call can carry.
-/

namespace GenWalk

/-- The numbered errors that reading, writing and launching can meet: those that are told apart
here, and any other. -/
inductive SystemError where
  | notPermitted
  | notFound
  | argumentsTooLong
  | execFormat
  | accessDenied
  | alreadyExists
  | notDirectory
  | isDirectory
  | invalidArgument
  | nameTooLong
  | notEmpty
  | linkLoop
  | other (number : Nat) (wording : String)
deriving DecidableEq, Inhabited

namespace SystemError

def number : SystemError → Nat
  | notPermitted => 1
  | notFound => 2
  | argumentsTooLong => 7
  | execFormat => 8
  | accessDenied => 13
  | alreadyExists => 17
  | notDirectory => 20
  | isDirectory => 21
  | invalidArgument => 22
  | nameTooLong => 36
  | notEmpty => 39
  | linkLoop => 40
  | other number _ => number

def wording : SystemError → String
  | notPermitted => "Operation not permitted"
  | notFound => "No such file or directory"
  | argumentsTooLong => "Argument list too long"
  | execFormat => "Exec format error"
  | accessDenied => "Permission denied"
  | alreadyExists => "File exists"
  | notDirectory => "Not a directory"
  | isDirectory => "Is a directory"
  | invalidArgument => "Invalid argument"
  | nameTooLong => "File name too long"
  | notEmpty => "Directory not empty"
  | linkLoop => "Too many levels of symbolic links"
  | other _ wording => wording

/-- The numbers that say only that there is nothing of the wanted kind at a path: no entry, a bad
descriptor, no directory on the way, too many links. -/
def absentNumbers : List Nat := [2, 9, 20, 40]

def meansAbsent (error : SystemError) : Bool := absentNumbers.contains error.number

end SystemError

/-- Why a question to the machine, or an order to it, came back without its answer. -/
inductive Fault where
  | system (error : SystemError) (path : Option Text)
  | nullInName
  /-- A name with half a character in it, for which there are no bytes. -/
  | halfInName (name : Text)
  | illegalVariable
  | cyclicPath (path : Text)
deriving DecidableEq, Inhabited

namespace Fault

def message : Fault → Text
  | system error path =>
    let head : Text := "[Errno " ++ Text.ofNat error.number ++ "] " ++ error.wording
    match path with
    | some path => head ++ ": " ++ path.quoted
    | none => head
  | nullInName => "embedded null byte"
  | halfInName name => Text.refusedFrom (name.takeWhile (!·.isHalf)).length name.codePoints
  | illegalVariable => "illegal environment variable name"
  | cyclicPath path => "Symlink loop from " ++ path.quoted

def isSystem : Fault → Bool
  | system _ _ => true
  | _ => false

/-- Whether the refusal says only that nothing of the wanted kind is at a path, or can be there. -/
def meansAbsent : Fault → Bool
  | system error _ => error.meansAbsent
  | nullInName | halfInName _ => true
  | illegalVariable | cyclicPath _ => false

def ofHalves? (name : Text) : Option Fault :=
  if name.any Glyph.isHalf then some (.halfInName name) else none

def ofName? (name : Text) : Option Fault :=
  (ofHalves? name).or (if name.contains (.char '\x00') then some .nullInName else none)

end Fault

end GenWalk
