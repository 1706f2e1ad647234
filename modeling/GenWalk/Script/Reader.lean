import GenWalk.Script.Reader.Word

/-!
Reading the commands of scripts. A script is read a line of commands at a time, so that what stands
before a mistake is still run.
-/

namespace GenWalk.Script

namespace Reading

def separators : (fuel : Nat) → Reading Unit
  | 0 => return
  | fuel + 1 => do
    blanks
    if ← takes "\n" then separators fuel
    else if ← startsWith ";;" then return
    else if ← takes ";" then separators fuel

def lineEnds : (fuel : Nat) → Reading Unit
  | 0 => return
  | fuel + 1 => do
    blanks
    if ← takes "\n" then lineEnds fuel

def closingWords : List String :=
  ["then", "elif", "else", "fi", "do", "done", "esac", "\x7d"]

def atWord (words : List String) : Reading Bool := do
  blanks
  let text ← get
  return words.any fun word =>
    (Text.ofString word).isPrefixOf text && (text.drop word.length).head?.all isOperator

def takeWord (word : String) : Reading Bool := do
  if ← atWord [word] then
    skip word.length
    return true
  return false

def expectWord (word : String) : Reading Unit := do
  unless ← takeWord word do fail

def assignment? (word : Word) : Option (Text × Word) :=
  let letters := word.takeWhile fun piece => match piece with
    | .text [glyph] false => glyph ≠ .char '='
    | _ => false
  match plainText? letters, word.drop letters.length with
  | some name, .text [.char '='] false :: value =>
    match name with
    | .char first :: rest =>
      if Template.isNameStart first && rest.all (·.satisfies Template.isNamePart) then
        some (name, withHome value)
      else none
    | _ => none
  | _, _ => none

def simpleParts (script : Reading (List Command)) :
    (fuel : Nat) → Reading (List Word × List (Redirection Word))
  | 0 => fail
  | fuel + 1 => do
    match ← redirection? script with
    | some redirection =>
      let (words, redirections) ← simpleParts script fuel
      return (words, redirection :: redirections)
    | none => match ← word? script with
      | some word =>
        let (words, redirections) ← simpleParts script fuel
        return (word :: words, redirections)
      | none => return ([], [])

def redirections (script : Reading (List Command)) :
    (fuel : Nat) → Reading (List (Redirection Word))
  | 0 => fail
  | fuel + 1 => do
    match ← redirection? script with
    | some redirection => return redirection :: (← redirections script fuel)
    | none => return []

def definedName? : Reading (Option Text) := do
  let text ← get
  let known := text.takeWhile (·.satisfies Template.isNamePart)
  let rest := (text.drop known.length).dropWhile (· == .char ' ')
  if !known.isEmpty && rest.head? = some (.char '(') then
    let inside := (rest.drop 1).dropWhile (· == .char ' ')
    if inside.head? = some (.char ')') then
      set (inside.drop 1)
      return some known
  return none

mutual

def command : (fuel : Nat) → Reading Command
  | 0 => fail
  | fuel + 1 => do
    if ← takeWord "if" then withRedirections (← branches fuel) fuel
    else if ← takeWord "while" then withRedirections (← loop true fuel) fuel
    else if ← takeWord "until" then withRedirections (← loop false fuel) fuel
    else if ← takeWord "for" then withRedirections (← forEach fuel) fuel
    else if ← takeWord "case" then withRedirections (← select fuel) fuel
    else if ← takeWord "\x7b" then
      let body ← commands fuel
      expectWord "\x7d"
      withRedirections (.group body) fuel
    else if ← takes "(" then
      let body ← commands fuel
      expect ")"
      withRedirections (.enclosed body) fuel
    else
      if ← atWord closingWords then fail
      if let some known ← definedName? then
        lineEnds (← get).length
        return .define known (← command fuel)
      let linesBehind := (← get).countP (· == .char '\n')
      let (words, redirections) ← simpleParts (commands fuel) ((← get).length + 1)
      let assignments := (words.map assignment?).takeWhile Option.isSome |>.filterMap id
      if words.isEmpty && redirections.isEmpty then fail
      return .simple linesBehind assignments (words.drop assignments.length) redirections

def withRedirections (inner : Command) : (fuel : Nat) → Reading Command
  | 0 => fail
  | fuel + 1 => do
    let list ← redirections (commands fuel) ((← get).length + 1)
    return if list.isEmpty then inner else .redirected inner list

def branches : (fuel : Nat) → Reading Command
  | 0 => fail
  | fuel + 1 => do
    let condition ← commands fuel
    expectWord "then"
    let body ← commands fuel
    if ← takeWord "elif" then
      match ← branches fuel with
      | .choose more otherwise => return .choose ((condition, body) :: more) otherwise
      | other => return other
    let otherwise ← if ← takeWord "else" then commands fuel else pure []
    expectWord "fi"
    return .choose [(condition, body)] otherwise

def loop (whileSuccess : Bool) : (fuel : Nat) → Reading Command
  | 0 => fail
  | fuel + 1 => do
    let condition ← commands fuel
    expectWord "do"
    let body ← commands fuel
    expectWord "done"
    return .loop whileSuccess condition body

def forEach : (fuel : Nat) → Reading Command
  | 0 => fail
  | fuel + 1 => do
    blanks
    let loopName ← name
    if loopName.isEmpty then fail
    lineEnds (← get).length
    let words? ← if ← takeWord "in" then do
        let (words, _) ← simpleParts (commands fuel) ((← get).length + 1)
        pure (some words)
      else pure none
    separators (← get).length
    expectWord "do"
    let body ← commands fuel
    expectWord "done"
    return .forEach loopName words? body

def select : (fuel : Nat) → Reading Command
  | 0 => fail
  | fuel + 1 => do
    let subject ← word (commands fuel)
    lineEnds (← get).length
    expectWord "in"
    return .select subject (← arms fuel)

def arms : (fuel : Nat) → Reading (List (List Word × List Command))
  | 0 => fail
  | fuel + 1 => do
    lineEnds (← get).length
    if ← takeWord "esac" then return []
    discard (takes "(")
    let patterns ← alternatives fuel
    expect ")"
    let body ← commands fuel
    blanks
    if ← takes ";;" then return (patterns, body) :: (← arms fuel)
    expectWord "esac"
    return [(patterns, body)]

def alternatives : (fuel : Nat) → Reading (List Word)
  | 0 => fail
  | fuel + 1 => do
    let first ← word (commands fuel)
    blanks
    if ← takes "|" then return first :: (← alternatives fuel)
    return [first]

def pipeline : (fuel : Nat) → Reading Command
  | 0 => fail
  | fuel + 1 => do
    if ← takeWord "!" then return .negated (← pipeline fuel)
    let first ← command fuel
    blanks
    if ← startsWith "||" then return first
    if ← takes "|" then
      lineEnds (← get).length
      return .piped first (← pipeline fuel)
    return first

def chain : (fuel : Nat) → Reading Command
  | 0 => fail
  | fuel + 1 => do chainRest (← pipeline fuel) fuel

def chainRest (before : Command) : (fuel : Nat) → Reading Command
  | 0 => fail
  | fuel + 1 => do
    blanks
    if ← takes "&&" then
      lineEnds (← get).length
      chainRest (.andThen before (← pipeline fuel)) fuel
    else if ← takes "||" then
      lineEnds (← get).length
      chainRest (.orElse before (← pipeline fuel)) fuel
    else return before

def commands : (fuel : Nat) → Reading (List Command)
  | 0 => fail
  | fuel + 1 => do
    separators (← get).length
    if (← get).isEmpty || (← atWord closingWords) || (← startsWith ")") || (← startsWith ";;") then
      return []
    let first ← chain fuel
    blanks
    let command := if ← takes "&" then .background first else first
    return command :: (← commands fuel)

end

def atLineEnd : Reading Bool := do
  blanks
  if (← get).isEmpty then return true
  takes "\n"

def lineCommands : (fuel : Nat) → Reading (List Command)
  | 0 => fail
  | fuel + 1 => do
    let first ← chain fuel
    blanks
    if ← atLineEnd then return [first]
    let command ← if ← takes "&" then pure (.background first) else do
      expect ";"
      pure first
    if ← atLineEnd then return [command]
    return command :: (← lineCommands fuel)

end Reading

def nextLine (script : Text) : Option (List Command × Text) :=
  (do
    Reading.lineEnds (← get).length
    if (← get).isEmpty then return []
    Reading.lineCommands (8 * (← get).length + 40) : Reading (List Command)).run script

end GenWalk.Script
