import GenWalk.Validation

/-!
Receipts: what came of one generator. A receipt is written for every directive that is met, whether
it was run, left alone or could not be run at all.
-/

namespace GenWalk

inductive Status where
  | ok
  | skipped
  | failed
deriving DecidableEq, Inhabited

def Status.text : Status → String
  | ok => "ok"
  | skipped => "skipped"
  | failed => "failed"

/-- What came of one generator. No time is taken: a walk leaves the times and the duration at their
defaults, and only fields that are given (`Receipt.ofFields`) have others. -/
structure Receipt where
  adapter : Text
  command : Text
  path : Text := []
  status : Status := .ok
  startedAt : Option Text := none
  endedAt : Option Text := none
  duration : Int := 0
  returnCode : Option Int := none
  output : Text := []
  error : Option Text := none
  metadata : List (Value × Value) := []
deriving Inhabited

namespace Receipt

def isOk (receipt : Receipt) : Bool := receipt.status == .ok

def isFailed (receipt : Receipt) : Bool := receipt.status == .failed

inductive Refusal where
  | lacking (names : List Text)
  | settled (name : Text)
  | invalid (issues : List Issue)
deriving DecidableEq, Inhabited

def requiredFields : Status → List Text
  | .ok | .skipped => ["adapter", "command"]
  | .failed => ["adapter", "command", "error"]

def outputField : Status → String
  | .ok | .failed => "output"
  | .skipped => "reason"

def settledFields (status : Status) : List Text :=
  if outputField status = "output" then ["status"] else ["status", "output"]

def validated (status : Status) (entries : List (Value × Value)) : Checked Receipt :=
  (Checked.accept fun adapter command path startedAt endedAt duration returnCode output error
      metadata =>
    ({ adapter, command, path, status, startedAt, endedAt, duration, returnCode, output, error,
       metadata } : Receipt))
  |>.beside (.field entries "adapter" none Value.checkText)
  |>.beside (.field entries "command" none Value.checkText)
  |>.beside (.field entries "path" (some []) Value.checkText)
  |>.beside (.field entries "started_at" (some none) fun value => value.checkText.map some)
  |>.beside (.field entries "ended_at" (some none) fun value => value.checkText.map some)
  |>.beside (.field entries "duration_ms" (some 0) Value.checkInteger)
  |>.beside (.field entries "return_code" (some none) (Value.checkOptional Value.checkInteger))
  |>.beside (.within (.field "output") <|
    ((Value.field? entries (outputField status)).map Value.checkText).getD (.ok []))
  |>.beside (.field entries "error" (some none) (Value.checkOptional Value.checkText))
  |>.beside (.field entries "metadata" (some []) Value.checkMap)

/-- The receipt of the given status that the fields describe. What is needed must be there and what
is settled must not, before anything else is looked at. -/
def ofFields (status : Status) (entries : List (Value × Value)) : Except Refusal Receipt :=
  let lacking := (requiredFields status).filter fun name => (Value.field? entries name).isNone
  let settled? := entries.findSome? fun entry => match entry.1 with
    | .text name => if (settledFields status).contains name then some name else none
    | _ => none
  if !lacking.isEmpty then .error (.lacking lacking)
  else match settled? with
    | some name => .error (.settled name)
    | none => (validated status entries).mapError .invalid

end Receipt

end GenWalk
