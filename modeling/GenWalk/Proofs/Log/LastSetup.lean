import GenWalk.Proofs.Log.Delivery
import GenWalk.Proofs.Walk.Conclusion

/-!
The log goes by its last setup. Whatever setups came before and however they ended, the last one
puts its own sinks in place, and from then on each of them gets every record that reaches its level
(`Machine.log_goes_by_last_setup`).
-/

namespace GenWalk

def LogRequest.fileSink (request : LogRequest) (path : Path) : Sink where
  destination := .file path
  level := request.levelOfFile
  layout := .dated

namespace Journal

variable {journal after : Journal} {request : LogRequest} {openFile : Text → Except Fault Path}

theorem setup_ok (done : journal.setup request openFile = (.ok (), after)) :
    after.Open ∧
      ((request.file? = none ∧ after.sinks = [request.console]) ∨
        ∃ name path, request.file? = some name ∧ openFile name = .ok path ∧
          after.sinks = [request.console, request.fileSink path]) := by
  unfold setup at done
  split at done
  next bare =>
    cases done
    refine ⟨⟨List.cons_ne_nil _ _, ?_⟩, Or.inl ⟨bare, rfl⟩⟩
    rintro sink (_ | ⟨_, ⟨⟩⟩)
    exact Int.le_refl _
  next name named =>
    split at done
    next => cases done
    next path opened =>
      cases done
      refine ⟨⟨List.cons_ne_nil _ _, ?_⟩, Or.inr ⟨name, path, named, opened, rfl⟩⟩
      rintro sink (_ | ⟨_, _ | ⟨_, ⟨⟩⟩⟩)
      · exact Int.min_le_left _ _
      · exact Int.min_le_right _ _

end Journal

namespace Machine

def logText (machine : Machine) (name : Text) : Text :=
  ((Lookup.pathTo machine.directory).join (.ofText name)).normalized.toText

variable {machine armed : Machine} {request : LogRequest}

theorem openLog_ok {name : Text} {path : Path} {opened : Machine}
    (done : machine.openLog name = .ok (path, opened)) :
    ∃ place, path = Lookup.pathTo place ∧
      machine.openForWriting (machine.logText name) = .ok (place, opened) := by
  simp only [openLog, bind, Except.bind, pure, Except.pure] at done
  split at done
  next => cases done
  next found opening =>
    cases done
    exact ⟨found.1, rfl, opening⟩

theorem setupLog_ok (done : setupLog request machine = .ok () armed) :
    armed.journal.Open ∧
      ((request.file? = none ∧ armed.journal.sinks = [request.console]) ∨
        ∃ name place opened, request.file? = some name ∧
          machine.openForWriting (machine.logText name) = .ok (place, opened) ∧
          armed.journal.sinks = [request.console, request.fileSink (Lookup.pathTo place)] ∧
          armed = { opened with journal := armed.journal }) := by
  simp only [setupLog] at done
  split at done
  next answered =>
    cases done
    obtain ⟨unbarred, told⟩ := Journal.setup_ok (Prod.ext answered rfl)
    refine ⟨unbarred, told.imp id ?_⟩
    rintro ⟨name, path, named, attempted, sinks⟩
    rw [named, Option.getD_some] at attempted
    cases opening : machine.openLog name with
    | error fault =>
      rw [opening] at attempted
      cases attempted
    | ok opened =>
      rw [opening] at attempted
      cases attempted
      obtain ⟨place, same, written⟩ := openLog_ok opening
      refine ⟨name, place, opened.2, named, written, same ▸ sinks, ?_⟩
      simp only [named, Option.getD_some, opening]
  next => cases done

def afterSetups (machine : Machine) (requests : List LogRequest) : Machine :=
  requests.foldl (fun current request => ended (setupLog request current)) machine

/-- The lines that a sink gets of the records: one of each that reaches its level, in order. -/
def linesOf (clock : Text) (records : List LogRecord) (sink : Sink) : List Text :=
  (records.filter fun record => sink.level ≤ record.level).map (sink.layout.line clock)

theorem isClean_of_mem_linesOf {clock line : Text} {records : List LogRecord} {sink : Sink}
    (time : clock.isClean) (unicode : ∀ record ∈ records, record.isUnicode)
    (member : line ∈ linesOf clock records sink) : line.isClean = true := by
  obtain ⟨record, inside, rfl⟩ := List.mem_map.1 member
  exact sink.layout.isClean_line time (unicode record (List.mem_filter.1 inside).1)

variable {records : List LogRecord}

theorem console_afterRecords (unbarred : machine.journal.Open) (time : machine.clock.isClean)
    (sound : ∀ record ∈ records, 1 ≤ record.level ∧ record.isUnicode) {sink : Sink}
    (single : (machine.journal.sinks.filter fun sink => sink.destination.isConsole) = [sink]) :
    (machine.afterRecords records).console =
      machine.console ++ Text.below (linesOf machine.clock records sink) := by
  have shown : (linesOf machine.clock records sink).map shownOnConsole =
      linesOf machine.clock records sink := by
    refine (List.map_congr_left fun line member => ?_).trans (List.map_id _)
    exact shownOnConsole_clean
      (isClean_of_mem_linesOf time (fun record inside => (sound record inside).2) member)
  rw [afterRecords_eq_deliver, console_deliver,
    unbarred.linesTo_single machine.clock (fun record inside => (sound record inside).1) single]
  exact congrArg (machine.console ++ Text.below ·) shown

theorem entry?_afterRecords (unbarred : machine.journal.Open) (time : machine.clock.isClean)
    (sound : ∀ record ∈ records, 1 ≤ record.level ∧ record.isUnicode) {place : Location}
    {sink : Sink}
    (single : (machine.journal.sinks.filter fun sink => sink.destination.isAt place) = [sink]) :
    (machine.afterRecords records).disk.entry? place =
      (machine.disk.entry? place).map
        (Entry.extended (linesOf machine.clock records sink)) := by
  have kept : (linesOf machine.clock records sink).filter Text.isClean =
      linesOf machine.clock records sink := by
    rw [List.filter_eq_self]
    intro line member
    exact isClean_of_mem_linesOf time (fun record inside => (sound record inside).2) member
  rw [afterRecords_eq_deliver, entry?_deliver_all,
    unbarred.linesTo_single machine.clock (fun record inside => (sound record inside).1) single]
  exact congrArg (fun lines => (machine.disk.entry? place).map (Entry.extended lines)) kept

theorem entry?_afterRecords_nobody (unbarred : machine.journal.Open)
    (sound : ∀ record ∈ records, 1 ≤ record.level) {place : Location}
    (nobody : (machine.journal.sinks.filter fun sink => sink.destination.isAt place) = []) :
    (machine.afterRecords records).disk.entry? place = machine.disk.entry? place := by
  rw [afterRecords_eq_deliver, entry?_deliver_all,
    unbarred.linesTo_nobody machine.clock sound nobody]
  exact Entry.map_extended_nil _

theorem afterRecords_eq (machine : Machine) (records : List LogRecord) :
    machine.afterRecords records = { machine with
      console := (machine.afterRecords records).console
      disk := (machine.afterRecords records).disk } := by
  rw [afterRecords_eq_deliver]
  exact deliver_all_eq machine _

/-- After a setup that succeeds, whatever came before it, its console and the file it asks for are
all the sinks there are. The console shows each record that reaches its level once and in order, the
file that the name leads to gets each record that reaches its own level once and in order behind
what it holds, no other file changes, and the threshold keeps no record from a sink. -/
theorem log_goes_by_last_setup (machine : Machine) (history : List LogRequest) (last : LogRequest)
    (records : List LogRecord) {armed : Machine}
    (done : setupLog last (machine.afterSetups history) = .ok () armed)
    (time : armed.clock.isClean)
    (sound : ∀ record ∈ records, 1 ≤ record.level ∧ record.isUnicode) :
    let before := machine.afterSetups history
    let after := armed.afterRecords records
    after.console = armed.console ++ Text.below (linesOf armed.clock records last.console) ∧
    after = { armed with console := after.console, disk := after.disk } ∧
    (∀ level, (∃ sink ∈ armed.journal.sinks, sink.level ≤ level) →
      armed.journal.threshold ≤ level) ∧
    match last.file? with
    | none => armed.journal.sinks = [last.console] ∧
      ∀ place, after.disk.entry? place = armed.disk.entry? place
    | some name => ∃ place entry,
      (∃ found, Lookup.find before.disk before.viewer true (before.logText name) = .ok found ∧
        found.location = place) ∧
      armed.journal.sinks = [last.console, last.fileSink (Lookup.pathTo place)] ∧
      armed.disk.entry? place = some entry ∧ entry.isDirectory = false ∧
      after.disk.entry? place = some (entry.extended
        (linesOf armed.clock records (last.fileSink (Lookup.pathTo place)))) ∧
      ∀ other, other ≠ place → after.disk.entry? other = armed.disk.entry? other := by
  intro before after
  obtain ⟨unbarred, told⟩ := setupLog_ok done
  have levels : ∀ record ∈ records, 1 ≤ record.level := fun record member => (sound record member).1
  refine ⟨?_, afterRecords_eq armed records, ?_, ?_⟩
  · refine console_afterRecords unbarred time sound ?_
    rcases told with ⟨_, sinks⟩ | ⟨_, _, _, _, _, sinks, _⟩
    · rw [sinks]
      rfl
    · rw [sinks]
      rfl
  · rintro level ⟨sink, member, reached⟩
    exact Int.le_trans (unbarred.lowered sink member) reached
  · rcases told with ⟨bare, sinks⟩ | ⟨name, place, opened, named, opening, sinks, same⟩
    · rw [bare]
      refine ⟨sinks, fun place => entry?_afterRecords_nobody unbarred levels ?_⟩
      rw [sinks]
      rfl
    · rw [named]
      obtain ⟨leads, ⟨entry, there, noDirectory⟩, _, _⟩ := openForWriting_ok opening
      have holds : armed.disk.entry? place = some entry := by
        rw [same]
        exact there
      refine ⟨place, entry, leads, sinks, holds, noDirectory, ?_, fun other elsewhere => ?_⟩
      · have single : (armed.journal.sinks.filter fun sink => sink.destination.isAt place) =
            [last.fileSink (Lookup.pathTo place)] := by
          rw [sinks]
          simp [LogRequest.console, LogRequest.fileSink, Destination.isAt, Lookup.pathTo]
        rw [entry?_afterRecords unbarred time sound single, holds, Option.map_some]
      · refine entry?_afterRecords_nobody unbarred levels ?_
        rw [sinks]
        simp [LogRequest.console, LogRequest.fileSink, Destination.isAt, Lookup.pathTo,
          Ne.symm elsewhere]

def earlierSetups : List LogRequest :=
  [{ file := some "no/such.log" }, { level := some "DEBUG", file := some "old.log" }]

def severeConsole : LogRequest :=
  { level := some "ERROR", file := some "new.log", fileLevel := some "NOTSET" }

def emptyFile : Entry := .file Entry.usualFileMode (.bytes [])

def relogged : Machine where
  disk := ⟨[(["old.log"], emptyFile), (["new.log"], emptyFile)]⟩
  clock := "noon"
  journal := {
    sinks := [severeConsole.console, severeConsole.fileSink (Lookup.pathTo ["new.log"])]
    threshold := Level.unset }

def twoRecords : List LogRecord :=
  [{ level := 1, source := "m", message := "low" },
    { level := 50, source := "m", message := "high" }]

theorem two_records_logged :
    let after := relogged.afterRecords twoRecords
    setupLog severeConsole (({ clock := "noon" } : Machine).afterSetups earlierSetups) =
        .ok () relogged ∧
      relogged.clock.isClean ∧ (∀ record ∈ twoRecords, 1 ≤ record.level ∧ record.isUnicode) ∧
      after.console = "helmgen: CRITICAL: high\n" ∧
      after.disk.entry? ["new.log"] = some (.file Entry.usualFileMode (.bytes
        (Utf8.encode "noon Level 1 m: low\nnoon CRITICAL m: high\n"))) ∧
      after.disk.entry? ["old.log"] = some emptyFile := by
  intro after
  have done : setupLog severeConsole (({ clock := "noon" } : Machine).afterSetups earlierSetups) =
      .ok () relogged := by
    cbv
  have time : relogged.clock.isClean := by decide
  have sound : ∀ record ∈ twoRecords, 1 ≤ record.level ∧ record.isUnicode := by decide
  obtain ⟨console, _, _, place, entry, _, sinks, there, _, held, others⟩ :=
    log_goes_by_last_setup { clock := "noon" } earlierSetups severeConsole twoRecords done time
      sound
  obtain rfl : place = ([Text.ofString "new.log"] : Location) := by
    have destinations := congrArg (List.map Sink.destination) sinks
    simpa [relogged, LogRequest.fileSink, Lookup.pathTo, eq_comm] using destinations
  obtain rfl : emptyFile = entry := Option.some.inj there
  refine ⟨done, time, sound, ?_, ?_, ?_⟩
  · rw [console]
    decide
  · rw [held]
    decide
  · exact others ["old.log"] (by decide)

end Machine

end GenWalk
