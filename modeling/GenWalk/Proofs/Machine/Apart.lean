import GenWalk.Machine.Basic
import GenWalk.Proofs.Machine.Paths
import GenWalk.Proofs.Machine.Writing
import GenWalk.Proofs.Traversal.Outside

/-!
Machines whose disks differ only behind closed locations, and in the listings of these. A look-up that
stays in view finds the same on both (`Lookup.find_congr`), so that the machines answer alike about a
tree (`Machine.host_alikeOutside`).
-/

namespace GenWalk

variable {closed : Location → Prop}

theorem Behind.below {upper : Location} (behind : Behind closed upper) (lower : Location) :
    Behind closed (upper ++ lower) := by
  obtain ⟨fence, name, rest, isClosed, rfl⟩ := behind
  exact ⟨fence, name, rest ++ lower, isClosed, by simp⟩

theorem InView.upper {upper lower : Location} (inView : InView closed (upper ++ lower)) :
    InView closed upper where
  named name member := inView.named name (List.mem_append_left _ member)
  clear behind := inView.clear (behind.below lower)

def Lookup.located (directory : Location) (text : Text) : Location :=
  (if isAbsolute text then [] else directory) ++ (Path.ofText text).parts

namespace Disk

/-- Two disks have the same everywhere but behind the closed locations, and list the same everywhere
but there and in the closed locations themselves. -/
structure AgreeOutside (closed : Location → Prop) (disk disk' : Disk) : Prop where
  entry : ∀ location, ¬Behind closed location → disk.entry? location = disk'.entry? location
  names : ∀ location, ¬Behind closed location → ¬closed location →
    Text.sorted (disk.names location) = Text.sorted (disk'.names location)

/-- A link in view leads to something in view, and is closed, so that nothing behind it is. -/
structure Fenced (closed : Location → Prop) (disk : Disk) : Prop where
  named : ∀ location, ∀ name ∈ disk.names location, IsEntryName name
  link : ∀ directory name target, ¬Behind closed (directory ++ [name]) →
    disk.entry? (directory ++ [name]) = some (.link target) → closed (directory ++ [name]) ∧
      InView closed (Lookup.located directory target)

theorem map_fst_assign (location : Location) (entry : Entry) (entries : List (Location × Entry)) :
    (assign location entry entries).map Prod.fst = entries.map Prod.fst ∨
      (assign location entry entries).map Prod.fst = entries.map Prod.fst ++ [location] := by
  induction entries with
  | nil => exact Or.inr rfl
  | cons head rest ih =>
    unfold assign
    split
    next same => exact Or.inl (by rw [List.map_cons, List.map_cons, same])
    next => exact ih.imp (congrArg (head.1 :: ·)) (congrArg (head.1 :: ·))

theorem names_eq (disk : Disk) (directory : Location) :
    disk.names directory = (disk.entries.map Prod.fst).filterMap fun location =>
      if location.dropLast = directory then location.getLast? else none := by
  rw [names, List.filterMap_map]
  rfl

theorem mem_entries_of_mem_names {disk : Disk} {directory : Location} {name : Text}
    (listed : name ∈ disk.names directory) : directory ++ [name] ∈ disk.entries.map Prod.fst := by
  rw [names_eq, List.mem_filterMap] at listed
  obtain ⟨location, member, last⟩ := listed
  split at last
  next same =>
    obtain ⟨upper, rfl⟩ := List.getLast?_eq_some_iff.1 last
    rwa [← same, List.dropLast_concat]
  next => cases last

theorem mem_entries_of_entry? {disk : Disk} {location : Location} {entry : Entry}
    (found : disk.entry? location = some entry) (below : location ≠ []) :
    (location, entry) ∈ disk.entries := by
  unfold entry? at found
  split at found
  next looked =>
    obtain rfl := Option.some.inj found
    obtain ⟨before, after, same, _⟩ := List.lookup_eq_some_iff.1 looked
    simp [same]
  next =>
    rw [if_neg (by simpa using below)] at found
    cases found

theorem names_insert_of_ne {disk : Disk} {location directory : Location} {entry : Entry}
    (elsewhere : location.dropLast ≠ directory) :
    (disk.insert location entry).names directory = disk.names directory := by
  rw [names_eq, names_eq, insert]
  rcases map_fst_assign location entry disk.entries with same | added
  · rw [same]
  · rw [added, List.filterMap_append, List.filterMap_cons, if_neg elsewhere, List.filterMap_nil,
      List.append_nil]

theorem AgreeOutside.insert {disk disk' : Disk} (agree : disk.AgreeOutside closed disk')
    {location : Location} (behind : Behind closed location) (entry : Entry) :
    disk.AgreeOutside closed (disk'.insert location entry) where
  entry other clear := by
    have elsewhere : other ≠ location := fun same => clear (same ▸ behind)
    rw [entry?_insert, if_neg elsewhere, agree.entry other clear]
  names directory clear entered := by
    have elsewhere : location.dropLast ≠ directory := by
      rintro rfl
      obtain ⟨upper, last, rfl⟩ : ∃ upper last, location = upper ++ [last] := by
        obtain ⟨fence, name, rest, _, rfl⟩ := behind
        exact ⟨_, _, (List.dropLast_append_getLast (by simp)).symm⟩
      rw [List.dropLast_concat] at clear entered
      exact (behind_concat behind).elim entered clear
    rw [names_insert_of_ne elsewhere, agree.names directory clear entered]

end Disk

namespace Lookup

variable {disk disk' : Disk} {viewer : Viewer} {follow : Bool}

def Stretch.Along (disk : Disk) (location : Location) : Stretch → Prop
  | arrived found => found.location = location
  | atLink directory target rest => ∃ name,
      disk.entry? (directory ++ [name]) = some (.link target) ∧
        directory ++ name :: undotted rest = location

theorem undotted_cons {name : Text} (plain : name ≠ dot) (rest : List Text) :
    undotted (name :: rest) = name :: undotted rest :=
  List.filter_cons_of_pos (by simp [plain])

theorem undotted_dot (rest : List Text) : undotted (dot :: rest) = undotted rest :=
  List.filter_cons_of_neg (by simp)

theorem along_of_advance {here : Location} {pending : List Text} {stretch : Stretch}
    (named : IsPlace (here ++ undotted pending))
    (advanced : advance disk viewer follow here pending = .ok stretch) :
    stretch.Along disk (here ++ undotted pending) := by
  induction pending generalizing here with
  | nil =>
    cases advanced
    exact (List.append_nil here).symm
  | cons name rest ih =>
    rcases advance_cases advanced with ⟨rfl, onward⟩ | ⟨rfl, _⟩ | ⟨other, step⟩
    · rw [undotted_dot] at named ⊢
      exact ih named onward
    · -- Two dots are no entry, so that no step leads back.
      rw [undotted_cons (by decide)] at named
      exact absurd rfl (named twoDots (by simp)).2.2.1
    · rw [undotted_cons other] at named ⊢
      rcases step with ⟨rfl, rfl⟩ | ⟨target, met, rfl⟩ | onward
      · rfl
      · exact ⟨name, met, rfl⟩
      · rw [List.append_cons] at named ⊢
        exact ih named onward

theorem advance_congr (agree : disk.AgreeOutside closed disk') (viewer : Viewer) (follow : Bool)
    {here : Location} {pending : List Text} (inView : InView closed (here ++ undotted pending)) :
    advance disk viewer follow here pending = advance disk' viewer follow here pending := by
  have atHere := agree.entry here inView.upper.clear
  induction pending generalizing here with
  | nil => rw [advance, advance, atHere]
  | cons name rest ih =>
    have entering : enter disk viewer here = enter disk' viewer here := by
      rw [enter, enter, atHere]
    simp only [advance, entering]
    by_cases dotted : name = dot
    · subst dotted
      rw [undotted_dot] at inView
      rw [if_pos rfl, if_pos rfl, ih inView atHere]
    · rw [undotted_cons dotted] at inView
      have plain : name ≠ twoDots := (inView.named name (by simp)).2.2.1
      rw [List.append_cons] at inView
      have atNext := agree.entry (here ++ [name]) inView.upper.clear
      rw [if_neg dotted, if_neg dotted, if_neg plain, if_neg plain, atNext, ih inView atNext]

theorem nothing_behind_link (fenced : disk.Fenced closed) {location directory : Location}
    {target : Text} {rest : List Text} (inView : InView closed location)
    (along : (Stretch.atLink directory target rest).Along disk location) :
    closed location ∧ undotted rest = [] ∧
      InView closed (located directory target) := by
  obtain ⟨name, met, rfl⟩ := along
  rw [List.append_cons] at inView ⊢
  obtain ⟨isClosed, leads⟩ := fenced.link directory name target inView.upper.clear met
  have last : undotted rest = [] := by
    cases left : undotted rest with
    | nil => rfl
    | cons next later =>
      rw [left] at inView
      exact absurd ⟨_, next, later, isClosed, rfl⟩ inView.clear
  rw [last, List.append_nil]
  exact ⟨isClosed, rfl, leads⟩

theorem walkNames_congr (agree : disk.AgreeOutside closed disk') (fenced : disk.Fenced closed)
    (viewer : Viewer) (follow : Bool) (links : Nat) {here : Location} {pending : List Text}
    (inView : InView closed (here ++ undotted pending)) :
    walkNames disk viewer follow links here pending =
      walkNames disk' viewer follow links here pending := by
  have same := advance_congr agree viewer follow inView
  induction links generalizing here pending with
  | zero => rw [walkNames, walkNames, same]
  | succ links ih =>
    rw [walkNames, walkNames, ← same]
    cases advanced : advance disk viewer follow here pending with
    | error error => rfl
    | ok stretch =>
      cases stretch with
      | arrived found => rfl
      | atLink directory target rest =>
        -- Nothing but single dots is left behind the link, so that the way goes on to its target only.
        obtain ⟨_, last, leads⟩ :=
          nothing_behind_link fenced inView (along_of_advance inView.named advanced)
        have onward : undotted ((Path.literal target).parts ++ rest) = (Path.ofText target).parts := by
          rw [undotted, List.filter_append]
          exact (congrArg₂ _ (undotted_literal target) last).trans (List.append_nil _)
        rw [located, ← onward] at leads
        exact ih leads (advance_congr agree viewer follow leads)

/-- What is looked up in view is found alike on disks that differ behind closed locations only. -/
theorem find_congr (agree : disk.AgreeOutside closed disk') (fenced : disk.Fenced closed)
    (viewer : Viewer) (follow : Bool) {text : Text}
    (inView : InView closed (located viewer.directory text)) :
    find disk viewer follow text = find disk' viewer follow text := by
  rw [located, ← undotted_literal] at inView
  rw [find, find, walkNames_congr agree fenced viewer follow linkLimit inView]

theorem findEntry_congr (agree : disk.AgreeOutside closed disk') (fenced : disk.Fenced closed)
    (viewer : Viewer) (follow : Bool) {text : Text}
    (inView : InView closed (located viewer.directory text)) :
    findEntry disk viewer follow text = findEntry disk' viewer follow text := by
  rw [findEntry, findEntry, find_congr agree fenced viewer follow inView]

theorem location_of_walkNames (fenced : disk.Fenced closed) {links : Nat} {here : Location}
    {pending : List Text} (inView : InView closed (here ++ undotted pending))
    (entered : ¬closed (here ++ undotted pending)) {found : Found}
    (walked : walkNames disk viewer follow links here pending = .ok found) :
    found.location = here ++ undotted pending := by
  unfold walkNames at walked
  simp only [bind, Except.bind] at walked
  split at walked
  next => cases walked
  next stretch advanced =>
    have along := along_of_advance inView.named advanced
    cases stretch with
    | arrived other =>
      cases walked
      exact along
    | atLink directory target rest =>
      exact absurd (nothing_behind_link fenced inView along).1 entered

theorem location_of_findEntry (fenced : disk.Fenced closed) {text : Text}
    (inView : InView closed (located viewer.directory text))
    (entered : ¬closed (located viewer.directory text)) {location : Location} {entry : Entry}
    (looked : findEntry disk viewer follow text = .ok (location, entry)) :
    location = located viewer.directory text := by
  rw [located, ← undotted_literal] at inView entered ⊢
  exact location_of_walkNames fenced inView entered (walked_of_find (find_of_findEntry looked))

end Lookup

namespace Machine

variable {machine machine' : Machine} {home : Location}

/-- The machines work in one directory, and are the same but for what their disks have behind the
closed locations and list there. -/
structure Apart (closed : Location → Prop) (home : Location) (machine machine' : Machine) : Prop where
  home : machine.directory = home
  rest : machine' = { machine with disk := machine'.disk }
  agree : machine.disk.AgreeOutside closed machine'.disk
  fenced : machine.disk.Fenced closed

namespace Apart

theorem viewer (apart : Apart closed home machine machine') : machine'.viewer = machine.viewer := by
  rw [apart.rest]
  rfl

theorem findEntry (apart : Apart closed home machine machine') (follow : Bool) {text : Text}
    (inView : InView closed (Lookup.located home text)) :
    machine.findEntry follow text = machine'.findEntry follow text := by
  rw [← apart.home] at inView
  rw [Machine.findEntry, Machine.findEntry, apart.viewer]
  exact Lookup.findEntry_congr apart.agree apart.fenced machine.viewer follow inView

theorem demand (apart : Apart closed home machine machine') : machine.demand = machine'.demand := by
  funext permission entry text
  rw [Machine.demand, Machine.demand, apart.viewer]

theorem kind (apart : Apart closed home machine machine') (follow : Bool) {text : Text}
    (inView : InView closed (Lookup.located home text)) :
    machine.kind follow text = machine'.kind follow text := by
  rw [Machine.kind, Machine.kind, apart.findEntry follow inView]

theorem content (apart : Apart closed home machine machine') {text : Text}
    (inView : InView closed (Lookup.located home text)) :
    machine.content text = machine'.content text := by
  rw [Machine.content, Machine.content, apart.findEntry true inView, apart.demand]

theorem names (apart : Apart closed home machine machine') {text : Text}
    (inView : InView closed (Lookup.located home text))
    (entered : ¬closed (Lookup.located home text)) :
    Text.sorted <$> machine.names text = Text.sorted <$> machine'.names text := by
  rw [Machine.names, Machine.names, ← apart.findEntry true inView, ← apart.demand]
  cases looked : machine.findEntry true text with
  | error fault => rfl
  | ok found =>
    obtain ⟨location, entry⟩ := found
    rw [← apart.home] at inView entered
    obtain rfl := Lookup.location_of_findEntry apart.fenced inView entered looked
    have listed := apart.agree.names _ inView.clear entered
    simp only [bind, Except.bind, pure, Except.pure, Functor.map, Except.map]
    cases entry.isDirectory with
    | false => rfl
    | true =>
      cases machine.demand .read entry text with
      | error fault => rfl
      | ok allowed => exact congrArg Except.ok listed

end Apart

theorem look_alike {worlds : Machine → Machine → Prop} {answer answer' : Machine → Except Fault α}
    (same : ∀ machine machine', worlds machine machine' → answer machine = answer' machine') :
    GenWalk.Alike worlds (look answer) (look answer') := by
  intro machine machine' near
  rw [look, look, same machine machine' near]
  cases answer' machine' with
  | ok value => exact ⟨rfl, near⟩
  | error fault => exact ⟨rfl, near⟩

theorem look_map (change : α → β) (answer : Machine → Except Fault α) :
    change <$> look answer = look fun machine => change <$> answer machine := by
  funext machine
  simp only [look, Functor.map, EStateM.map]
  cases answer machine with
  | ok value => rfl
  | error fault => rfl

theorem listed_of_names {text : Text} {names : List Text} (listed : machine.names text = .ok names) :
    ∃ location, names = machine.disk.names location := by
  simp only [Machine.names, bind, Except.bind, pure, Except.pure] at listed
  grind

def locationOf (home : Location) (path : Path) : Location :=
  (if path.anchor = .relative then home else []) ++ path.parts

theorem locationOf_descend (home : Location) (root : Path) (place : List Text) :
    locationOf home (root.descend place) = locationOf home root ++ place :=
  (List.append_assoc _ _ _).symm

theorem located_toText {path : Path} (named : IsPlace path.parts) :
    Lookup.located home path.toText = locationOf home path := by
  have absolute := Lookup.isAbsolute_iff path.toText
  rw [Path.ofText_toText named] at absolute
  rw [Lookup.located, Path.ofText_toText named, locationOf]
  by_cases relative : path.anchor = .relative
  · simp [relative, absolute]
  · simp [relative, absolute]

theorem inView_below {root : Location} (atRoot : InView closed root) {place : List Text}
    (inView : InView (fun place => closed (root ++ place)) place) : InView closed (root ++ place) where
  named name member := by
    rcases List.mem_append.1 member with above | below
    · exact atRoot.named name above
    · exact inView.named name below
  clear := by
    rintro ⟨fence, name, rest, isClosed, same⟩
    rcases List.append_eq_append_iff.1 same with ⟨between, rfl, split⟩ | ⟨between, rfl, split⟩
    · exact inView.clear ⟨between, name, rest, isClosed, split⟩
    · cases between with
      | nil => exact inView.clear ⟨[], name, rest, by simpa using isClosed, by simpa using split.symm⟩
      | cons next later =>
        exact atRoot.clear ⟨fence, next, later, isClosed, rfl⟩

theorem located_descend {root : Path} {place : List Text}
    (named : IsPlace (locationOf home root ++ place)) :
    Lookup.located home (root.descend place).toText = locationOf home root ++ place := by
  have parts : IsPlace (root.descend place).parts := fun name member =>
    named name (by rw [locationOf, List.append_assoc]; exact List.mem_append_right _ member)
  rw [located_toText parts, locationOf_descend]

/-- Machines that differ behind closed locations only answer alike about a tree with a root in view. -/
theorem host_alikeOutside {worlds : Machine → Machine → Prop} {root : Path}
    (apart : ∀ machine machine', worlds machine machine' → Apart closed home machine machine')
    (noted : ∀ record machine machine', worlds machine machine' →
      worlds (note record machine) (note record machine'))
    (atRoot : InView closed (locationOf home root)) :
    host.AlikeOutside worlds (fun place => closed (locationOf home root ++ place)) root host := by
  have leads {place : List Text}
      (inView : InView (fun place => closed (locationOf home root ++ place)) place) :
      Lookup.located home (root.descend place).toText = locationOf home root ++ place :=
    located_descend (inView_below atRoot inView).named
  have clear {place : List Text}
      (inView : InView (fun place => closed (locationOf home root ++ place)) place) :
      InView closed (Lookup.located home (root.descend place).toText) := by
    rw [leads inView]
    exact inView_below atRoot inView
  refine { entries := ?entries, names := ?names, environment := ?environment, note := noted,
           kind := fun place inView => ?kind, target := fun place inView => ?target,
           content := fun place inView => ?content }
  case entries =>
    intro machine machine' near directory names listed name member
    simp only [Host.snapshot, host, answer_look] at listed
    obtain ⟨location, rfl⟩ := listed_of_names listed
    exact (apart _ _ near).fenced.named location name member
  case kind =>
    exact look_alike fun machine machine' near => (apart _ _ near).kind false (clear inView)
  case target =>
    exact look_alike fun machine machine' near => (apart _ _ near).kind true (clear inView)
  case content =>
    exact look_alike fun machine machine' near => (apart _ _ near).content (clear inView)
  case names =>
    intro place inView entered
    simp only [host, look_map]
    refine look_alike fun machine machine' near => (apart _ _ near).names (clear inView) ?_
    rw [leads inView]
    exact entered
  case environment =>
    intro machine machine' near
    rw [(apart _ _ near).rest]
    rfl

end Machine

end GenWalk
