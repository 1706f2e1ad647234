import GenWalk.Calendar
import GenWalk.Numeral

/-!
What can be wrong with a YAML document. Most of it is one thing, that the document is malformed; the
rest are scalars that have the form of their kind and yet no value.
-/

namespace GenWalk

/-- A scalar without a value. -/
inductive Misfit where
  | number (refusal : Numeral.Refusal)
  | moment (problem : Moment.Problem)
  | codePoint (point : Nat)
  | unknownWord (word : Text)
  | noTime
  | timeInParts
  | noDigits
deriving DecidableEq, Inhabited

def Misfit.message : Misfit → Text
  | number refusal => refusal.message
  | moment problem => problem.message
  | codePoint point => "code point " ++ Text.ofNat point ++ " is out of range"
  | unknownWord word => "unknown word " ++ word.quoted
  | noTime => "a time was expected"
  | timeInParts => "a time must be one scalar"
  | noDigits => "a number without digits"

inductive YamlFault where
  | malformed
  | misfit (misfit : Misfit)
deriving DecidableEq, Inhabited

end GenWalk
