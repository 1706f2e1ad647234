import GenWalk.Proofs.Machine.Writing
import GenWalk.Proofs.Text.Clean

/-!
Where the lines of the log end up. A journal whose threshold bars no sink hands every record to each
sink whose level it reaches (`Journal.Open.deliveries`), and a machine puts every line behind what
its place already holds (`Machine.console_deliver`, `Machine.entry?_deliver`).
-/

namespace GenWalk

def LogRecord.isUnicode (record : LogRecord) : Bool :=
  record.source.isClean && record.message.isClean

theorem Level.isClean_label (level : Level) : level.label.isClean = true := by
  unfold label
  split
  next => exact Text.isClean_ofString _
  next => split <;> simp

theorem Layout.isClean_line {clock : Text} {record : LogRecord} (layout : Layout)
    (time : clock.isClean) (unicode : record.isUnicode) :
    (layout.line clock record).isClean = true := by
  obtain ⟨source, message⟩ := Bool.and_eq_true_iff.1 unicode
  have name : record.sourceName.isClean = true := by
    unfold LogRecord.sourceName
    split
    next => exact Text.isClean_ofString _
    next => exact source
  have label : record.level.label.isClean = true := Level.isClean_label record.level
  cases layout with
  | detailed => simp [line, name, label, message, unknownLine]
  | plain => simp [line, message]
  | labelled => simp [line, label, message]
  | dated => simp [line, padded, name, label, message, time]

namespace Journal

variable {journal : Journal}

/-- No sink waits for records in vain: there is a sink, and the threshold lets pass whatever a sink
would take. -/
structure Open (journal : Journal) : Prop where
  manned : journal.sinks ≠ []
  lowered : ∀ sink ∈ journal.sinks, journal.threshold ≤ sink.level

theorem Open.deliveries (unbarred : journal.Open) (clock : Text) {record : LogRecord}
    (level : 1 ≤ record.level) :
    journal.deliveries clock record =
      (journal.sinks.filter fun sink => sink.level ≤ record.level).map fun sink =>
        (sink.destination, sink.layout.line clock record) := by
  unfold Journal.deliveries
  split
  next passedBy =>
    have low : record.level < journal.threshold := by
      rcases (Bool.or_eq_true_iff.1 passedBy).imp of_decide_eq_true of_decide_eq_true with
        none | low
      · exact absurd (Int.le_trans level none) (by decide)
      · exact low
    have nobody : journal.sinks.filter (fun sink => sink.level ≤ record.level) = [] := by
      rw [List.filter_eq_nil_iff]
      intro sink member
      rw [decide_eq_true_eq]
      exact Int.not_le.2 (Int.lt_of_lt_of_le low (unbarred.lowered sink member))
    rw [nobody, List.map_nil]
  next =>
    split
    next empty => exact absurd (List.isEmpty_iff.1 empty) unbarred.manned
    next => rfl

end Journal

def linesTo (wanted : Destination → Bool) (deliveries : List (Destination × Text)) : List Text :=
  (deliveries.filter fun delivery => wanted delivery.1).map Prod.snd

theorem linesTo_append (wanted : Destination → Bool) (first second : List (Destination × Text)) :
    linesTo wanted (first ++ second) = linesTo wanted first ++ linesTo wanted second := by
  rw [linesTo, List.filter_append, List.map_append]
  rfl

theorem linesTo_cons (wanted : Destination → Bool) (delivery : Destination × Text)
    (rest : List (Destination × Text)) :
    linesTo wanted (delivery :: rest) =
      (if wanted delivery.1 then [delivery.2] else []) ++ linesTo wanted rest := by
  unfold linesTo
  rw [List.filter_cons]
  split
  next => rfl
  next => rfl

theorem linesTo_sinks (wanted : Destination → Bool) (taken : Sink → Bool) (line : Sink → Text)
    (sinks : List Sink) :
    linesTo wanted ((sinks.filter taken).map fun sink => (sink.destination, line sink)) =
      ((sinks.filter fun sink => wanted sink.destination).filter taken).map line := by
  rw [linesTo, List.filter_map, List.map_map, List.filter_filter, List.filter_filter]
  exact congrArg (List.map line) (List.filter_congr fun sink _ => Bool.and_comm _ _)

namespace Journal

variable {journal : Journal} {records : List LogRecord}

def allDeliveries (journal : Journal) (clock : Text) (records : List LogRecord) :
    List (Destination × Text) :=
  records.flatMap (journal.deliveries clock)

theorem Open.linesTo (unbarred : journal.Open) (clock : Text)
    (levels : ∀ record ∈ records, 1 ≤ record.level) (wanted : Destination → Bool) :
    linesTo wanted (journal.allDeliveries clock records) =
      records.flatMap fun record =>
        ((journal.sinks.filter fun sink => wanted sink.destination).filter fun sink =>
          sink.level ≤ record.level).map fun sink => sink.layout.line clock record := by
  induction records with
  | nil => rfl
  | cons record rest ih =>
    have later := ih fun other member => levels other (List.mem_cons_of_mem record member)
    rw [allDeliveries, List.flatMap_cons, linesTo_append, ← allDeliveries, later,
      List.flatMap_cons, unbarred.deliveries clock (levels record List.mem_cons_self), linesTo_sinks]

theorem Open.linesTo_single (unbarred : journal.Open) (clock : Text)
    (levels : ∀ record ∈ records, 1 ≤ record.level) {wanted : Destination → Bool} {sink : Sink}
    (single : (journal.sinks.filter fun sink => wanted sink.destination) = [sink]) :
    GenWalk.linesTo wanted (journal.allDeliveries clock records) =
      (records.filter fun record => sink.level ≤ record.level).map (sink.layout.line clock) := by
  rw [unbarred.linesTo clock levels, single]
  induction records with
  | nil => rfl
  | cons record rest ih =>
    have later := ih fun other member => levels other (List.mem_cons_of_mem record member)
    rw [List.flatMap_cons, later, List.filter_cons]
    by_cases reached : sink.level ≤ record.level
    · simp [reached]
    · simp [reached]

theorem Open.linesTo_nobody (unbarred : journal.Open) (clock : Text)
    (levels : ∀ record ∈ records, 1 ≤ record.level) {wanted : Destination → Bool}
    (nobody : (journal.sinks.filter fun sink => wanted sink.destination) = []) :
    GenWalk.linesTo wanted (journal.allDeliveries clock records) = [] := by
  rw [unbarred.linesTo clock levels, nobody]
  simp

end Journal

def Text.below (lines : List Text) : Text := lines.flatMap (· ++ [.char '\n'])

def Entry.extended (lines : List Text) (entry : Entry) : Entry :=
  if lines.isEmpty then entry else entry.altered (· ++ Utf8.encode (Text.below lines))

theorem Entry.extended_nil (entry : Entry) : entry.extended [] = entry := rfl

theorem Entry.map_extended_nil (here : Option Entry) : here.map (extended []) = here :=
  Option.map_id'

theorem Entry.extended_append (entry : Entry) (first second : List Text) :
    (entry.extended first).extended second = entry.extended (first ++ second) := by
  cases first with
  | nil => rfl
  | cons line rest =>
    cases second with
    | nil => rw [extended_nil, List.append_nil]
    | cons other more =>
      cases entry with
      | file mode content =>
        simp [extended, altered, Machine.contentOf, Text.below, Utf8.encode]
      | directory mode => rfl
      | link target => rfl
      | device => rfl

namespace Destination

def isConsole : Destination → Bool
  | console => true
  | file _ => false

def isAt (place : Location) : Destination → Bool
  | console => false
  | file path => path.parts = place

end Destination

namespace Machine

theorem shownOnConsole_clean {text : Text} (clean : text.isClean) : shownOnConsole text = text := by
  induction text with
  | nil => rfl
  | cons glyph rest ih =>
    obtain ⟨first, later⟩ := Bool.and_eq_true_iff.1 clean
    rw [shownOnConsole, List.flatMap_cons, if_pos first]
    exact congrArg (glyph :: ·) (ih later)

theorem deliver_file (machine : Machine) (path : Path) (line : Text) :
    machine.deliver (.file path, line) =
      if line.isClean then
        machine.alterFile path.parts fun old => old ++ Utf8.encode (Text.below [line])
      else machine := by
  simp only [Text.below, List.flatMap_cons, List.flatMap_nil, List.append_nil]
  rfl

theorem deliver_eq (machine : Machine) (delivery : Destination × Text) :
    machine.deliver delivery = { machine with
      console := (machine.deliver delivery).console
      disk := (machine.deliver delivery).disk } := by
  rcases delivery with ⟨_ | path, line⟩
  · rfl
  · rw [deliver_file]
    split
    next => rw [alterFile_eq]
    next => rfl

theorem deliver_all_eq (machine : Machine) (deliveries : List (Destination × Text)) :
    deliveries.foldl deliver machine = { machine with
      console := (deliveries.foldl deliver machine).console
      disk := (deliveries.foldl deliver machine).disk } := by
  induction deliveries generalizing machine with
  | nil => rfl
  | cons delivery rest ih =>
    rw [List.foldl_cons, ih, deliver_eq]

theorem console_deliver (machine : Machine) (deliveries : List (Destination × Text)) :
    (deliveries.foldl deliver machine).console = machine.console ++
      Text.below ((linesTo Destination.isConsole deliveries).map shownOnConsole) := by
  induction deliveries generalizing machine with
  | nil => exact (List.append_nil _).symm
  | cons delivery rest ih =>
    rw [List.foldl_cons, ih, linesTo_cons, List.map_append]
    rcases delivery with ⟨_ | path, line⟩
    · simp [deliver, Destination.isConsole, Text.below]
    · have kept : (machine.deliver (.file path, line)).console = machine.console := by
        rw [deliver_file]
        split
        next => rw [alterFile_eq]
        next => rfl
      simp [kept, Destination.isConsole]

theorem entry?_deliver (machine : Machine) (destination : Destination) (line : Text)
    (place : Location) :
    (machine.deliver (destination, line)).disk.entry? place =
      (machine.disk.entry? place).map
        (Entry.extended (if destination.isAt place && line.isClean then [line] else [])) := by
  cases destination with
  | console => exact (Entry.map_extended_nil _).symm
  | file path =>
    rw [deliver_file]
    cases line.isClean with
    | false => simp [Entry.map_extended_nil]
    | true =>
      simp only [if_true, entry?_alterFile, Destination.isAt, Bool.and_true]
      by_cases same : place = path.parts
      · subst same
        simp only [if_true, decide_true]
        rfl
      · rw [if_neg same, decide_eq_false (Ne.symm same)]
        exact (Entry.map_extended_nil _).symm

/-- A file holds every Unicode line that is meant for it once, in order, behind what it held. -/
theorem entry?_deliver_all (machine : Machine) (deliveries : List (Destination × Text))
    (place : Location) :
    (deliveries.foldl deliver machine).disk.entry? place =
      (machine.disk.entry? place).map
        (Entry.extended ((linesTo (Destination.isAt place) deliveries).filter Text.isClean)) := by
  induction deliveries generalizing machine with
  | nil => exact (Entry.map_extended_nil _).symm
  | cons delivery rest ih =>
    rcases delivery with ⟨destination, line⟩
    have first : (if destination.isAt place then [line] else []).filter Text.isClean =
        if destination.isAt place && line.isClean then [line] else [] := by
      cases destination.isAt place <;> cases clean : line.isClean <;> simp [clean]
    rw [List.foldl_cons, ih, entry?_deliver, Option.map_map, linesTo_cons, List.filter_append,
      first]
    congr 1
    funext entry
    exact Entry.extended_append entry _ _

def afterRecords (machine : Machine) (records : List LogRecord) : Machine :=
  records.foldl (fun current record => current.note record) machine

theorem afterRecords_eq_deliver (machine : Machine) (records : List LogRecord) :
    machine.afterRecords records =
      (machine.journal.allDeliveries machine.clock records).foldl deliver machine := by
  induction records generalizing machine with
  | nil => rfl
  | cons record rest ih =>
    have first := deliver_all_eq machine (machine.journal.deliveries machine.clock record)
    rw [Journal.allDeliveries, List.flatMap_cons, List.foldl_append]
    rw [afterRecords, List.foldl_cons]
    change afterRecords (note record machine) rest = _
    rw [ih]
    unfold note
    rw [first]
    rfl

end Machine

end GenWalk
