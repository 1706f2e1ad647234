import GenWalk.Machine.Launch
import GenWalk.Proofs.Log.LastSetup
import GenWalk.Proofs.Text.LineEnds
import Mathlib.Data.List.Basic
import Mathlib.Tactic.SplitIfs

/-!
How log lines are told apart on a console. Whatever has happened to a log that was set up, a record
that reaches the console begins with the tag there. It stays on one line only if its message does:
nothing takes the line ends out of it (`Machine.console_tagged`).
-/

namespace GenWalk

open Text (lineEnd lineEnds)

inductive LogEvent where
  | setup (request : LogRequest)
  | record (record : LogRecord)
  | written (disk : Disk)

namespace LogEvent

def request? : LogEvent → Option LogRequest
  | setup request => some request
  | _ => none

def requestAfter (last : Option LogRequest) (event : LogEvent) : Option LogRequest :=
  event.request?.or last

def lastRequest? (events : List LogEvent) : Option LogRequest := events.foldl requestAfter none

end LogEvent

/-- Neither the message nor the name of what logs it holds a line end. -/
def LogRecord.OneLine (record : LogRecord) : Prop :=
  lineEnd ∉ record.message ∧ lineEnd ∉ record.source

def consoleTag : Text := "helmgen:"

def IsTaggedLine (text : Text) : Prop :=
  consoleTag <+: text ∧ text.getLast? = some lineEnd ∧ text.lineEnds = 1

instance (text : Text) : Decidable (IsTaggedLine text) :=
  inferInstanceAs (Decidable (_ ∧ _ ∧ _))

@[simp] theorem Level.lineEnds_label (level : Level) : level.label.lineEnds = 0 := by
  unfold label
  split
  next name found =>
    obtain ⟨before, after, listed, _⟩ := List.lookup_eq_some_iff.1 found
    have member := listed ▸ List.mem_append_right before List.mem_cons_self
    have known : ∀ entry ∈ [debug, info, warning, error, critical].zip
        ["DEBUG", "INFO", "WARNING", "ERROR", "CRITICAL"],
        lineEnds (Text.ofString entry.2) = 0 := by
      decide
    exact known (level, name) member
  next =>
    split
    next => rfl
    next => rw [Text.lineEnds_append, Text.lineEnds_ofInt]; rfl

theorem LogRecord.lineEnds_sourceName (record : LogRecord) :
    record.sourceName.lineEnds = record.source.lineEnds := by
  unfold sourceName
  split
  next empty => rw [List.isEmpty_iff.1 empty]; rfl
  next => rfl

namespace Layout

theorem tag_line (level : Level) (clock : Text) (record : LogRecord) :
    consoleTag <+: (ofConsoleLevel level).line clock record := by
  have tagged : ("helmgen: " : Text) = consoleTag ++ " " := by decide
  unfold ofConsoleLevel
  split_ifs
  · simp only [line, tagged, List.append_assoc]
    exact List.prefix_append _ _
  · simp only [line, tagged, List.append_assoc]
    exact List.prefix_append _ _
  · simp only [line, tagged, List.append_assoc]
    exact List.prefix_append _ _

theorem lineEnds_line (level : Level) (clock : Text) (record : LogRecord) :
    ((ofConsoleLevel level).line clock record).lineEnds =
      (if level < Level.info then record.source.lineEnds else 0) + record.message.lineEnds := by
  have tag : lineEnds "helmgen: " = 0 := by decide
  have marks : lineEnds " " = 0 ∧ lineEnds ":" = 0 ∧ lineEnds ": " = 0 ∧
      lineEnds unknownLine = 0 := by
    decide
  unfold ofConsoleLevel
  split_ifs
  · simp [line, tag, marks, record.lineEnds_sourceName]
  · simp [line, tag]
  · simp [line, tag, marks]

end Layout

namespace Journal

variable {journal : Journal}

def ConsoleOf (journal : Journal) : Option LogRequest → Prop
  | none => journal = {}
  | some request => (journal.sinks.filter fun sink => sink.destination.isConsole) = [request.console]

def Reaches (journal : Journal) (clock : Text) (record : LogRecord) : Prop :=
  .console ∈ (journal.deliveries clock record).map Prod.fst

instance (journal : Journal) (clock : Text) (record : LogRecord) :
    Decidable (journal.Reaches clock record) :=
  inferInstanceAs (Decidable (_ ∈ _))

theorem consoleOf_setup (journal : Journal) (request : LogRequest)
    (openFile : Text → Except Fault Path) :
    (journal.setup request openFile).2.ConsoleOf (some request) := by
  unfold setup
  split
  next => rfl
  next =>
    split
    next => rfl
    next => rfl

variable {clock : Text} {record : LogRecord}

theorem linesTo_console_of_not_reaches (unreached : ¬journal.Reaches clock record) :
    linesTo Destination.isConsole (journal.deliveries clock record) = [] := by
  have nobody : ∀ delivery ∈ journal.deliveries clock record,
      ¬delivery.1.isConsole = true := by
    rintro ⟨destination, line⟩ member console
    cases destination with
    | console => exact unreached (List.mem_map_of_mem member)
    | file path => cases console
  rw [linesTo, List.filter_eq_nil_iff.2 nobody, List.map_nil]

theorem deliveries_reached (reached : journal.Reaches clock record) :
    journal.deliveries clock record =
      if journal.sinks.isEmpty then [(.console, record.message)]
      else (journal.sinks.filter fun sink => sink.level ≤ record.level).map fun sink =>
        (sink.destination, sink.layout.line clock record) := by
  unfold Reaches at reached
  unfold deliveries at reached ⊢
  split at reached
  next => cases reached
  next passes =>
    rw [if_neg passes]
    split at reached
    next empty =>
      rw [if_pos empty, if_pos empty]
      split at reached
      next => cases reached
      next high => rw [if_neg high]
    next manned => rw [if_neg manned, if_neg manned]

theorem ConsoleOf.linesTo_console {request : LogRequest} (own : journal.ConsoleOf (some request))
    (reached : journal.Reaches clock record) :
    linesTo Destination.isConsole (journal.deliveries clock record) =
      [request.console.layout.line clock record] := by
  have manned : ¬journal.sinks.isEmpty = true := by
    intro empty
    rw [ConsoleOf, List.isEmpty_iff.1 empty] at own
    cases own
  have delivered := (deliveries_reached reached).trans (if_neg manned)
  rw [Reaches, delivered, List.map_map] at reached
  obtain ⟨sink, taken, destination⟩ := List.mem_map.1 reached
  obtain ⟨member, high⟩ := List.mem_filter.1 taken
  have console : sink ∈ journal.sinks.filter fun sink => sink.destination.isConsole :=
    List.mem_filter.2 ⟨member, by rw [show sink.destination = .console from destination]; rfl⟩
  rw [own, List.mem_singleton] at console
  rw [delivered, linesTo_sinks, own, ← console, List.filter_singleton, high]
  rfl

end Journal

namespace Machine

theorem shownOnConsole_append (first second : Text) :
    shownOnConsole (first ++ second) = shownOnConsole first ++ shownOnConsole second :=
  List.flatMap_append

theorem lineEnds_shownOnConsole (text : Text) : (shownOnConsole text).lineEnds = text.lineEnds := by
  induction text with
  | nil => rfl
  | cons glyph rest ih =>
    have single : lineEnds (shownOnConsole [glyph]) = lineEnds [glyph] := by
      cases glyph with
      | char value => rfl
      | stray byte => exact (congrArg lineEnds (List.append_nil _)).trans (Text.lineEnds_numericEscape _)
      | half point => exact (congrArg lineEnds (List.append_nil _)).trans (Text.lineEnds_numericEscape _)
    rw [← List.singleton_append, shownOnConsole_append, Text.lineEnds_append, Text.lineEnds_append,
      single, ih]

theorem tag_shown {line : Text} (tagged : consoleTag <+: line) :
    consoleTag <+: shownOnConsole line ++ [lineEnd] := by
  obtain ⟨rest, rfl⟩ := tagged
  have tag : shownOnConsole consoleTag = consoleTag := shownOnConsole_clean (Text.isClean_ofString _)
  rw [shownOnConsole_append, tag, List.append_assoc]
  exact List.prefix_append _ _

theorem isTaggedLine_shown {line : Text} (tagged : consoleTag <+: line) :
    IsTaggedLine (shownOnConsole line ++ [lineEnd]) ↔ line.lineEnds = 0 := by
  have counted : lineEnds (shownOnConsole line ++ [lineEnd]) = line.lineEnds + 1 := by
    rw [Text.lineEnds_append, lineEnds_shownOnConsole]
    rfl
  constructor
  · rintro ⟨_, _, single⟩
    omega
  · intro none
    exact ⟨tag_shown tagged, List.getLast?_concat .., by omega⟩

theorem console_note (machine : Machine) (record : LogRecord) :
    (machine.note record).console = machine.console ++
      Text.below ((linesTo Destination.isConsole
        (machine.journal.deliveries machine.clock record)).map shownOnConsole) :=
  console_deliver machine _

theorem journal_note (machine : Machine) (record : LogRecord) :
    (machine.note record).journal = machine.journal := by
  unfold note
  rw [deliver_all_eq]

theorem ended_setupLog (request : LogRequest) (machine : Machine) :
    ended (setupLog request machine) = { machine with
      journal := (machine.journal.setup request fun _ =>
        (machine.openLog (request.file?.getD [])).map Prod.fst).2
      disk := (ended (setupLog request machine)).disk } := by
  cases named : request.file? with
  | none => simp only [setupLog, named, Journal.setup, ended]
  | some name =>
    cases opening : machine.openLog name with
    | error fault =>
      simp only [setupLog, named, Option.getD_some, opening, Journal.setup, Except.map, ended]
    | ok opened =>
      obtain ⟨path, after⟩ := opened
      obtain ⟨place, _, written⟩ := openLog_ok opening
      obtain ⟨_, _, _, same⟩ := openForWriting_ok written
      simp only [setupLog, named, Option.getD_some, opening, Journal.setup, Except.map, ended]
      rw [same]

def afterEvent (machine : Machine) : LogEvent → Machine
  | .setup request => ended (setupLog request machine)
  | .record record => machine.note record
  | .written disk => { machine with disk }

def afterEvents (machine : Machine) (events : List LogEvent) : Machine :=
  events.foldl afterEvent machine

variable {machine : Machine} {last : Option LogRequest}

theorem consoleOf_afterEvent (own : machine.journal.ConsoleOf last) (event : LogEvent) :
    (machine.afterEvent event).journal.ConsoleOf (event.requestAfter last) := by
  cases event with
  | setup request =>
    rw [afterEvent, ended_setupLog]
    exact machine.journal.consoleOf_setup request _
  | record record =>
    rw [afterEvent, journal_note]
    exact own
  | written disk => exact own

theorem consoleOf_afterEvents (own : machine.journal.ConsoleOf last) (events : List LogEvent) :
    (machine.afterEvents events).journal.ConsoleOf (events.foldl LogEvent.requestAfter last) := by
  induction events generalizing machine last with
  | nil => exact own
  | cons event rest ih => exact ih (consoleOf_afterEvent own event)

/-- What a record that reaches the console looks like there, by the last setup. After a setup it begins
with the tag, and it is one line exactly if no line end is in what is shown of the record, the message
and for a detailed console the source. Before any setup it is shown bare. -/
def ShownAs (record : LogRecord) (shown : Text) : Option LogRequest → Prop
  | some request => consoleTag <+: shown ∧ (IsTaggedLine shown ↔ lineEnd ∉ record.message ∧
      (request.consoleLevel < Level.info → lineEnd ∉ record.source))
  | none => shown = shownOnConsole record.message ++ [lineEnd]

theorem shownAs_line (clock : Text) (record : LogRecord) (request : LogRequest) :
    ShownAs record (shownOnConsole (request.console.layout.line clock record) ++ [lineEnd])
      (some request) := by
  have tagged := Layout.tag_line request.consoleLevel clock record
  have counted := Layout.lineEnds_line request.consoleLevel clock record
  refine ⟨tag_shown tagged, (isTaggedLine_shown tagged).trans ?_⟩
  rw [counted, Nat.add_eq_zero_iff, Text.lineEnds_eq_zero, and_comm]
  refine and_congr_right fun _ => ?_
  by_cases detailed : request.consoleLevel < Level.info
  · simp only [detailed, if_true, Text.lineEnds_eq_zero, true_imp_iff]
  · simp only [detailed, if_false, false_imp_iff]

theorem console_record (own : machine.journal.ConsoleOf last) (record : LogRecord) :
    ∃ shown, (machine.note record).console = machine.console ++ shown ∧
      if machine.journal.Reaches machine.clock record then ShownAs record shown last
      else shown = [] := by
  rw [console_note]
  by_cases reached : machine.journal.Reaches machine.clock record
  · cases last with
    | none =>
      have bare : machine.journal = {} := own
      refine ⟨shownOnConsole record.message ++ [lineEnd], ?_, by rw [if_pos reached]; rfl⟩
      rw [Journal.deliveries_reached reached, bare]
      exact congrArg (machine.console ++ ·) (List.append_nil _)
    | some request =>
      refine ⟨_, ?_, by rw [if_pos reached]; exact shownAs_line machine.clock record request⟩
      rw [own.linesTo_console reached]
      exact congrArg (machine.console ++ ·) (List.append_nil _)
  · refine ⟨[], ?_, by rw [if_neg reached]⟩
    rw [Journal.linesTo_console_of_not_reaches reached]
    rfl

theorem console_afterEvent {request : LogRequest} (own : machine.journal.ConsoleOf (some request))
    {event : LogEvent} (oneLine : ∀ record, event = .record record → record.OneLine) :
    ∃ lines : List Text, (machine.afterEvent event).console = machine.console ++ lines.flatten ∧
      ∀ line ∈ lines, IsTaggedLine line := by
  cases event with
  | setup request =>
    refine ⟨[], ?_, fun _ member => absurd member List.not_mem_nil⟩
    rw [afterEvent, ended_setupLog]
    exact (List.append_nil _).symm
  | record record =>
    obtain ⟨message, source⟩ := oneLine record rfl
    obtain ⟨shown, added, told⟩ := console_record own record
    split at told
    next =>
      refine ⟨[shown], by rw [List.flatten_singleton]; exact added, fun line member => ?_⟩
      rw [List.mem_singleton.1 member]
      exact told.2.2 ⟨message, fun _ => source⟩
    next =>
      subst told
      exact ⟨[], added, fun _ member => absurd member List.not_mem_nil⟩
  | written disk =>
    exact ⟨[], (List.append_nil _).symm, fun _ member => absurd member List.not_mem_nil⟩

theorem console_afterEvents {request : LogRequest} (own : machine.journal.ConsoleOf (some request))
    {events : List LogEvent} (oneLine : ∀ record, .record record ∈ events → record.OneLine) :
    ∃ lines : List Text, (machine.afterEvents events).console = machine.console ++ lines.flatten ∧
      ∀ line ∈ lines, IsTaggedLine line := by
  induction events generalizing machine request with
  | nil => exact ⟨[], (List.append_nil _).symm, fun _ member => absurd member List.not_mem_nil⟩
  | cons event rest ih =>
    obtain ⟨first, added, tagged⟩ := console_afterEvent own fun record same =>
      oneLine record (same ▸ List.mem_cons_self)
    obtain ⟨next, later⟩ : ∃ next, (machine.afterEvent event).journal.ConsoleOf (some next) := by
      have stays := consoleOf_afterEvent own event
      cases event with
      | setup next => exact ⟨next, stays⟩
      | record record => exact ⟨request, stays⟩
      | written disk => exact ⟨request, stays⟩
    obtain ⟨others, more, all⟩ := ih later fun record member =>
      oneLine record (List.mem_cons_of_mem event member)
    refine ⟨first ++ others, ?_, fun line member => (List.mem_append.1 member).elim (tagged line)
      (all line)⟩
    rw [afterEvents, List.foldl_cons, ← afterEvents, more, added, List.flatten_append,
      List.append_assoc]

/-- Whatever has happened to a log, a record that reaches the console is shown by the last setup. So all
that a log puts on the console from its first setup on is tagged lines, unless a record holds a line
end. -/
theorem console_tagged (machine : Machine) (fresh : machine.journal = {}) (events : List LogEvent) :
    let now := machine.afterEvents events
    (∀ record, ∃ shown, (now.note record).console = now.console ++ shown ∧
      if now.journal.Reaches now.clock record then
        ShownAs record shown (LogEvent.lastRequest? events)
      else shown = []) ∧
    ∀ first rest, events = .setup first :: rest →
      (∀ record, .record record ∈ rest → record.OneLine) →
      ∃ lines : List Text, now.console = machine.console ++ lines.flatten ∧
        ∀ line ∈ lines, IsTaggedLine line := by
  intro now
  have own : machine.journal.ConsoleOf none := fresh
  refine ⟨fun record => console_record (consoleOf_afterEvents own events) record, ?_⟩
  rintro first rest same oneLine
  have started := consoleOf_afterEvent own (.setup first)
  obtain ⟨lines, added, tagged⟩ := console_afterEvents started oneLine
  refine ⟨lines, ?_, tagged⟩
  simp only [now, same]
  rw [afterEvents, List.foldl_cons, ← afterEvents, added, afterEvent, ended_setupLog]

theorem greeting_tagged :
    let greeting : LogRecord := { level := Level.info, source := "helmgen", message := "a" }
    let rest : List LogEvent := [.setup { level := some "DEBUG" }, .record greeting]
    let now := ({} : Machine).afterEvents (.setup { file := some "a/b" } :: rest)
    (∀ record, .record record ∈ rest → record.OneLine) ∧
      (∃ lines : List Text, now.console = lines.flatten ∧ ∀ line ∈ lines, IsTaggedLine line) ∧
      now.console = "helmgen: INFO helmgen:N a\n" := by
  intro greeting rest now
  have oneLine : ∀ record, .record record ∈ rest → record.OneLine := by
    intro record member
    simp only [rest, List.mem_cons, reduceCtorEq, LogEvent.record.injEq, List.not_mem_nil,
      or_false, false_or] at member
    subst member
    exact ⟨by decide, by decide⟩
  exact ⟨oneLine, (console_tagged {} rfl _).2 _ rest rfl oneLine, by decide +kernel⟩

def brokenPlace : Machine where
  disk := ⟨[(["r"], .file 0o644 (.bytes (Utf8.encode "# helm:generate e $PART\n")))]⟩
  environment := { entries := [("PART", "x\ny")] }

/-- A walk lists that command on two lines, of which the second has no tag. -/
theorem command_broken :
    let now := brokenPlace.afterEvents [.setup { level := some "INFO" }]
    let listed : LogRecord :=
      { level := Level.info, source := Traversal.source, message := "⊘ r → e x\ny" }
    let walked := ended (Walk.run host processAdapter { root := "r", dryRun := true } now)
    listed.isUnicode ∧ now.journal.Reaches now.clock listed ∧
      walked.console = (now.note listed).console ∧
      walked.console = now.console ++ "helmgen: ⊘ r → e x\ny\n" ∧
      ¬∃ line, (now.note listed).console = now.console ++ line ∧ IsTaggedLine line := by
  intro now listed walked
  have walk : walked.console = "helmgen: ⊘ r → e x\ny\n" := by decide +kernel
  have same : (now.note listed).console = "helmgen: ⊘ r → e x\ny\n" := by decide +kernel
  have before : now.console = [] := by cbv
  refine ⟨by decide, by decide, walk.trans same.symm, by rw [before]; exact walk, ?_⟩
  rintro ⟨line, added, tagged⟩
  rw [same, before, List.nil_append] at added
  rw [← added] at tagged
  exact absurd tagged (by decide)

end Machine

end GenWalk
