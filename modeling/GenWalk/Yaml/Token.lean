import GenWalk.Yaml.Fault

/-!
Tokens: the words and marks of a document, and the marks that indentation stands for.
-/

namespace GenWalk.Yaml

structure TagName where
  handle? : Option (List Char)
  ending : List Char
deriving DecidableEq, Inhabited

inductive Directive where
  | version (major minor : Nat)
  | tagHandle (handle start : List Char)
  | other
deriving DecidableEq, Inhabited

inductive Token where
  | directive (directive : Directive)
  | documentStart
  | documentEnd
  | blockSequenceStart
  | blockMappingStart
  | blockEnd
  | flowSequenceStart
  | flowSequenceEnd
  | flowMappingStart
  | flowMappingEnd
  | blockEntry
  | flowEntry
  | key
  | value
  | alias (name : List Char)
  | anchor (name : List Char)
  | tag (name : TagName)
  | scalar (text : Text) (plain : Bool)
deriving DecidableEq, Inhabited

/-- The end of the tokens of a document that could not be read to its end. -/
structure TokenBreak where
  fault : YamlFault
  /-- How many tokens can be used before the fault is met: a token that may turn out to start a key
  cannot be used without those behind it. -/
  usable : Nat
deriving Inhabited

end GenWalk.Yaml
