import GenWalk.Proofs.Log.LastSetup
import Mathlib.Data.List.Basic
import Mathlib.Data.List.Induction

/-!
What a failed setup of the log leaves behind. It has put its own console in the place of all sinks
and has not come to the threshold, so that the log is as it was only if that console was there by
itself already (`Machine.failed_setup_leaves`).
-/

namespace GenWalk

theorem LogRequest.console_eq_iff {first second : LogRequest} :
    first.console = second.console ↔ first.consoleLevel = second.consoleLevel := by
  constructor
  · exact congrArg Sink.level
  · intro same
    rw [console, console, same]

namespace Journal

variable {journal : Journal}

theorem deliveries_single {sink : Sink} (alone : journal.sinks = [sink]) (clock : Text)
    (record : LogRecord) :
    journal.deliveries clock record =
      if 1 ≤ record.level ∧ journal.threshold ≤ record.level ∧ sink.level ≤ record.level then
        [(sink.destination, sink.layout.line clock record)]
      else [] := by
  unfold deliveries Level.unset
  rw [alone]
  by_cases passes : 1 ≤ record.level ∧ journal.threshold ≤ record.level
  · by_cases reached : sink.level ≤ record.level
    · grind
    · grind
  · grind

end Journal

namespace Machine

variable {machine after : Machine} {request : LogRequest} {fault : Fault}

theorem setupLog_error (failed : setupLog request machine = .error fault after) :
    (∃ name, request.file? = some name ∧ machine.openLog name = .error fault) ∧
      after = { machine with journal := { machine.journal with sinks := [request.console] } } := by
  cases named : request.file? with
  | none =>
    simp only [setupLog, named, Journal.setup] at failed
    cases failed
  | some name =>
    cases opening : machine.openLog name with
    | ok opened =>
      simp only [setupLog, named, Option.getD_some, opening, Journal.setup, Except.map] at failed
      cases failed
    | error other =>
      simp only [setupLog, named, Option.getD_some, opening, Journal.setup, Except.map] at failed
      cases failed
      exact ⟨⟨name, rfl, opening⟩, rfl⟩

theorem setupLog_cases (request : LogRequest) (machine : Machine) :
    setupLog request machine = .ok () (ended (setupLog request machine)) ∨
      ∃ fault, setupLog request machine = .error fault (ended (setupLog request machine)) := by
  cases setupLog request machine with
  | ok _ armed => exact Or.inl rfl
  | error fault armed => exact Or.inr ⟨fault, rfl⟩

theorem sinks_after_setup (last request : LogRequest) (machine : Machine) :
    (ended (setupLog last machine)).journal.sinks = [request.console] ↔
      last.consoleLevel = request.consoleLevel ∧
        (last.file? = none ∨ ∃ fault armed, setupLog last machine = .error fault armed) := by
  have single : [last.console] = [request.console] ↔ last.consoleLevel = request.consoleLevel := by
    rw [List.singleton_inj, LogRequest.console_eq_iff]
  rcases setupLog_cases last machine with done | ⟨fault, failed⟩
  · have unfailed : ¬∃ fault armed, setupLog last machine = .error fault armed := by
      rintro ⟨fault, armed, failed⟩
      cases done.symm.trans failed
    rcases (setupLog_ok done).2 with ⟨bare, sinks⟩ | ⟨name, place, _, named, _, sinks, _⟩
    · rw [sinks, single]
      exact (and_iff_left (Or.inl bare)).symm
    · rw [sinks]
      refine iff_of_false (fun same => ?_) ?_
      · cases (List.cons.inj same).2
      · rintro ⟨_, bare | failed⟩
        · cases named.symm.trans bare
        · exact unfailed failed
  · have sinks := congrArg (·.journal.sinks) (setupLog_error failed).2
    rw [show (ended (setupLog last machine)).journal.sinks = [last.console] from sinks, single]
    exact (and_iff_left (Or.inr ⟨fault, _, failed⟩)).symm

theorem afterSetups_concat (machine : Machine) (earlier : List LogRequest) (last : LogRequest) :
    machine.afterSetups (earlier ++ [last]) =
      ended (setupLog last (machine.afterSetups earlier)) :=
  List.foldl_concat ..

/-- After setups the console of a request is the only sink exactly if the last of them asked for one
of the same level, and for no file or in vain for one. -/
theorem sinks_afterSetups (fresh : machine.journal = {}) (history : List LogRequest)
    (request : LogRequest) :
    (machine.afterSetups history).journal.sinks = [request.console] ↔
      ∃ earlier last, history = earlier ++ [last] ∧ last.consoleLevel = request.consoleLevel ∧
        (last.file? = none ∨
          ∃ fault armed, setupLog last (machine.afterSetups earlier) = .error fault armed) := by
  induction history using List.reverseRecOn with
  | nil =>
    refine iff_of_false ?_ ?_
    · intro alone
      rw [afterSetups, List.foldl_nil, fresh] at alone
      cases alone
    · rintro ⟨earlier, last, none, _⟩
      exact List.append_ne_nil_of_right_ne_nil earlier (List.cons_ne_nil last []) none.symm
  | append_singleton earlier last _ =>
    rw [afterSetups_concat, sinks_after_setup]
    constructor
    · exact fun told => ⟨earlier, last, rfl, told⟩
    · rintro ⟨earlier', last', split, told⟩
      obtain ⟨rfl, lasts⟩ := List.append_inj' split rfl
      obtain rfl := List.singleton_inj.1 lasts
      exact told

def shownAlone (journal : Journal) (clock : Text) (sink : Sink) (records : List LogRecord) :
    List Text :=
  (records.filter fun record =>
    1 ≤ record.level ∧ journal.threshold ≤ record.level ∧ sink.level ≤ record.level).map
      fun record => shownOnConsole (sink.layout.line clock record)

theorem note_alone {sink : Sink} (alone : machine.journal.sinks = [sink])
    (console : sink.destination = .console) (record : LogRecord) :
    machine.note record = { machine with
      console := machine.console ++
        Text.below (shownAlone machine.journal machine.clock sink [record]) } := by
  unfold note shownAlone
  rw [Journal.deliveries_single alone, List.filter_singleton]
  by_cases passes : 1 ≤ record.level ∧ machine.journal.threshold ≤ record.level ∧
      sink.level ≤ record.level
  · simp [passes, console, deliver, Text.below]
  · simp [passes, Text.below]

theorem shownAlone_cons (journal : Journal) (clock : Text) (sink : Sink) (record : LogRecord)
    (rest : List LogRecord) :
    shownAlone journal clock sink (record :: rest) =
      shownAlone journal clock sink [record] ++ shownAlone journal clock sink rest := by
  rw [shownAlone, ← List.singleton_append, List.filter_append, List.map_append]
  rfl

theorem afterRecords_alone {sink : Sink} (alone : machine.journal.sinks = [sink])
    (console : sink.destination = .console) (records : List LogRecord) :
    machine.afterRecords records = { machine with
      console := machine.console ++
        Text.below (shownAlone machine.journal machine.clock sink records) } := by
  induction records generalizing machine with
  | nil =>
    show machine = { machine with console := machine.console ++ [] }
    rw [List.append_nil]
  | cons record rest ih =>
    have kept : (machine.note record).journal.sinks = [sink] := by
      rw [note_alone alone console]
      exact alone
    have joined : Text.below (shownAlone machine.journal machine.clock sink (record :: rest)) =
        Text.below (shownAlone machine.journal machine.clock sink [record]) ++
          Text.below (shownAlone machine.journal machine.clock sink rest) := by
      rw [shownAlone_cons _ _ _ record rest]
      exact List.flatMap_append
    rw [afterRecords, List.foldl_cons, ← afterRecords, ih kept, note_alone alone console, joined,
      ← List.append_assoc]

/-- A setup that fails could not open its file, and then has its own console in the place of all
sinks, while the threshold and all else are left as they were. So the log is as it was only if the
setup before it asked for a console of the same level, and for no file or in vain for one. From then
on the console shows what reaches both its own level and the threshold of an earlier setup, and no
file gets anything. -/
theorem failed_setup_leaves (machine : Machine) (fresh : machine.journal = {})
    (history : List LogRequest) (request : LogRequest) {fault : Fault} {after : Machine}
    (failed : setupLog request (machine.afterSetups history) = .error fault after) :
    let before := machine.afterSetups history
    (∃ name, request.file? = some name ∧ before.openLog name = .error fault) ∧
    after = { before with journal := { before.journal with sinks := [request.console] } } ∧
    (after = before ↔ ∃ earlier last, history = earlier ++ [last] ∧
      last.consoleLevel = request.consoleLevel ∧
      (last.file? = none ∨
        ∃ fault armed, setupLog last (machine.afterSetups earlier) = .error fault armed)) ∧
    ∀ records, after.afterRecords records = { before with
      journal := after.journal
      console := before.console ++
        Text.below (shownAlone before.journal before.clock request.console records) } := by
  intro before
  obtain ⟨cause, left⟩ := setupLog_error failed
  refine ⟨cause, left, ?_, fun records => ?_⟩
  · have same : after = before ↔ before.journal.sinks = [request.console] := by
      constructor
      · intro same
        rw [← same, left]
      · intro alone
        rw [left, ← alone]
    exact same.trans (sinks_afterSetups fresh history request)
  · rw [left]
    exact afterRecords_alone rfl rfl records

def quietSetup : LogRequest := { level := some "ERROR", file := some "old.log" }

def wordySetup : LogRequest := { level := some "DEBUG", file := some "no/such.log" }

def noon : Machine := { clock := "noon" }

def attended : Machine := { noon with
  disk := ⟨[(["old.log"], emptyFile)]⟩
  journal := {
    sinks := [quietSetup.console, quietSetup.fileSink (Lookup.pathTo ["old.log"])]
    threshold := Level.error } }

def abandoned : Machine :=
  { attended with journal := { attended.journal with sinks := [wordySetup.console] } }

theorem afterSetups_quiet : noon.afterSetups [quietSetup] = attended := by cbv

def missingPlace : Fault := .system .notFound (some "/no/such.log")

theorem setupLog_wordy : setupLog wordySetup attended = .error missingPlace abandoned := by cbv

theorem setupLog_wordy_again : setupLog wordySetup abandoned = .error missingPlace abandoned := by cbv

def infoAndWorse : List LogRecord :=
  [{ level := Level.info, source := "m", message := "low" },
    { level := Level.critical, source := "m", message := "high" }]

/-- A setup that fails for the second time changes nothing any more. But the console that it asks for
gets no more than the earlier threshold lets pass, and the file gets nothing. -/
theorem twice_failed_leaves :
    let before := noon.afterSetups [quietSetup, wordySetup]
    noon.journal = {} ∧ setupLog wordySetup before = .error missingPlace abandoned ∧
      abandoned = before ∧ wordySetup.console.level < Level.info ∧
      (abandoned.afterRecords infoAndWorse).console = "helmgen: CRITICAL m:N high\n" ∧
      (abandoned.afterRecords infoAndWorse).disk.entry? ["old.log"] = some emptyFile := by
  intro before
  have reached : before = abandoned := by
    rw [show before = ended (setupLog wordySetup (noon.afterSetups [quietSetup])) from
      afterSetups_concat noon [quietSetup] wordySetup, afterSetups_quiet, setupLog_wordy]
    rfl
  have failed : setupLog wordySetup before = .error missingPlace abandoned := by
    rw [reached]
    exact setupLog_wordy_again
  have failed' : setupLog wordySetup (noon.afterSetups [quietSetup]) = .error missingPlace abandoned := by
    rw [afterSetups_quiet]
    exact setupLog_wordy
  obtain ⟨_, _, same, told⟩ := failed_setup_leaves noon rfl [quietSetup, wordySetup] wordySetup failed
  have shown := told infoAndWorse
  rw [show noon.afterSetups [quietSetup, wordySetup] = abandoned from reached] at shown
  refine ⟨rfl, failed, same.2 ⟨[quietSetup], wordySetup, rfl, rfl, Or.inr ⟨_, _, failed'⟩⟩, by decide,
    ?_, ?_⟩
  · rw [shown]
    decide
  · rw [shown]
    rfl

/-- The first failure takes the file out of the log: what it would have got goes to the console
alone. -/
theorem file_abandoned :
    let severe : LogRecord := { level := Level.critical, source := "m", message := "high" }
    setupLog wordySetup (noon.afterSetups [quietSetup]) = .error missingPlace abandoned ∧
      abandoned.journal ≠ (noon.afterSetups [quietSetup]).journal ∧
      ((noon.afterSetups [quietSetup]).note severe).disk.entry? ["old.log"] =
        some (.file Entry.usualFileMode (.bytes (Utf8.encode "noon CRITICAL m: high\n"))) ∧
      (abandoned.note severe).disk.entry? ["old.log"] = some emptyFile := by
  rw [afterSetups_quiet]
  exact ⟨setupLog_wordy, by decide, by decide, by decide⟩

end Machine

end GenWalk
