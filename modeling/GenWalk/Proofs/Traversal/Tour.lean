import GenWalk.Proofs.Traversal.Course

/-!
A traversal of a tree that stands still. What it leads to is settled before anything is visited
(`Itinerary.listed`, `Itinerary.ending`). The main statement `Itinerary.play_tour` says that a
traversal does no more than to visit these files, one after the other.
-/

namespace GenWalk

variable {World Gathered : Type}

namespace Itinerary

def listed (view : Snapshot) : Itinerary → List Path
  | done | giveUp _ => []
  | ask question next => match view.answer question with
    | .ok answer => (next answer).listed view
    | .error _ => []
  | note _ next => next.listed view
  | visit path next => path :: next.listed view

def ending (view : Snapshot) : Itinerary → Option Interruption
  | done => none
  | giveUp fault => some (.refused fault)
  | ask question next => match view.answer question with
    | .ok answer => (next answer).ending view
    | .error fault => some (.refused fault)
  | note _ next => next.ending view
  | visit _ next => next.ending view

variable {view : Snapshot}

theorem course_listed (itinerary : Itinerary) :
    Course (· = view) itinerary (itinerary.listed view) (itinerary.ending view) := by
  induction itinerary with
  | done => exact .done
  | giveUp fault => exact .giveUp
  | ask question next ih =>
    cases answered : view.answer question with
    | ok answer =>
      simp only [listed, ending, answered]
      exact .ask rfl answered (ih answer)
    | error fault =>
      simp only [listed, ending, answered]
      exact .refused rfl answered
  | note message next ih => exact .note ih
  | visit path next ih => exact .visit ih

theorem mem_listed_andThen {first last : Itinerary} {path : Path}
    (member : path ∈ (first.andThen last).listed view) :
    path ∈ first.listed view ∨ path ∈ last.listed view := by
  induction first with
  | done => exact Or.inr member
  | giveUp fault => exact Or.inl member
  | ask question next ih =>
    simp only [andThen, listed] at member ⊢
    cases answered : view.answer question with
    | ok answer =>
      simp only [answered] at member
      exact ih answer member
    | error fault =>
      simp only [answered] at member
      exact Or.inl member
  | note message next ih => exact ih member
  | visit here next ih =>
    simp only [andThen, listed, List.mem_cons] at member ⊢
    rcases member with same | later
    · exact Or.inl (Or.inl same)
    · exact (ih later).imp_left Or.inr

theorem ending_andThen (first last : Itinerary) :
    (first.andThen last).ending view = (first.ending view).or (last.ending view) := by
  induction first with
  | done => rfl
  | giveUp fault => rfl
  | ask question next ih =>
    simp only [andThen, ending]
    cases view.answer question with
    | ok answer => exact ih answer
    | error fault => rfl
  | note message next ih => exact ih
  | visit path next ih => exact ih

theorem mem_listed_each {entry : Text → Itinerary} {names : List Text} {path : Path}
    (member : path ∈ (each entry names).listed view) :
    ∃ name ∈ names, path ∈ (entry name).listed view := by
  induction names with
  | nil => cases member
  | cons name rest ih =>
    rcases mem_listed_andThen member with here | later
    · exact ⟨name, List.mem_cons_self, here⟩
    · obtain ⟨other, among, found⟩ := ih later
      exact ⟨other, List.mem_cons_of_mem name among, found⟩

theorem ending_each {entry : Text → Itinerary} {names : List Text}
    (ends : ∀ name ∈ names, (entry name).ending view = none) :
    (each entry names).ending view = none := by
  induction names with
  | nil => rfl
  | cons name rest ih =>
    rw [each, ending_andThen, ends name List.mem_cons_self]
    exact ih fun other member => ends other (List.mem_cons_of_mem name member)

end Itinerary

/-- The files are visited in order, until a visit stops the tour or the files are at their end.
Between two visits the world stays at the same stage. -/
inductive Tour {Stage : Type} (worlds : Stage → World → Prop)
    (visiting : Path → Journey World Gathered Unit) :
    Stage → Gathered → List Path → Option Interruption →
      EStateM.Result Interruption (World × Gathered) Unit → Prop where
  | finished {stage : Stage} {world : World} {gathered : Gathered} (inside : worlds stage world) :
      Tour worlds visiting stage gathered [] none (.ok () (world, gathered))
  | refused {stage : Stage} {world : World} {gathered : Gathered} {interruption : Interruption}
      (inside : worlds stage world) :
      Tour worlds visiting stage gathered [] (some interruption)
        (.error interruption (world, gathered))
  | visited {stage later : Stage} {world after : World} {gathered more : Gathered} {path : Path}
      {files : List Path} {ending : Option Interruption}
      {outcome : EStateM.Result Interruption (World × Gathered) Unit} (inside : worlds stage world)
      (done : visiting path (world, gathered) = .ok () (after, more)) (moved : worlds later after)
      (rest : Tour worlds visiting later more files ending outcome) :
      Tour worlds visiting stage gathered (path :: files) ending outcome
  | stopped {stage later : Stage} {world after : World} {gathered more : Gathered} {path : Path}
      {files : List Path} {ending : Option Interruption} {interruption : Interruption}
      (inside : worlds stage world)
      (failed : visiting path (world, gathered) = .error interruption (after, more))
      (moved : worlds later after) :
      Tour worlds visiting stage gathered (path :: files) ending (.error interruption (after, more))

namespace Itinerary

variable {Stage : Type} {worlds : Stage → World → Prop} {view : Snapshot} {host : Host World}
  {visiting : Path → Journey World Gathered Unit}

theorem play_tour (still : ∀ stage, host.Still view (worlds stage))
    (visits : ∀ stage path world gathered, worlds stage world →
      ∃ later, worlds later (Journey.atEnd (visiting path (world, gathered))).1)
    (itinerary : Itinerary) (stage : Stage) {world : World} (inside : worlds stage world)
    (gathered : Gathered) :
    Tour worlds visiting stage gathered (itinerary.listed view) (itinerary.ending view)
      (itinerary.play host visiting (world, gathered)) := by
  induction itinerary generalizing stage world gathered with
  | done => exact .finished inside
  | giveUp fault => exact .refused inside
  | ask question next ih =>
    obtain ⟨after, stays, asked⟩ := (still stage).answer question world inside
    cases answered : view.answer question with
    | ok answer =>
      simp only [answered] at asked
      rw [play_answered host visiting gathered asked]
      simp only [listed, ending, answered]
      exact ih answer stage stays gathered
    | error fault =>
      simp only [answered] at asked
      rw [play_refused host visiting gathered asked]
      simp only [listed, ending, answered]
      exact .refused stays
  | note message next ih => exact ih stage ((still stage).note _ world inside) gathered
  | visit path next ih =>
    obtain ⟨later, moved⟩ := visits stage path world gathered inside
    cases done : visiting path (world, gathered) with
    | ok value state =>
      rw [done] at moved
      rw [play_visited host visiting done]
      exact .visited inside done moved (ih later moved state.2)
    | error interruption state =>
      rw [done] at moved
      rw [play_stopped host visiting done]
      exact .stopped inside done moved

end Itinerary

theorem Tour.collected {Stage : Type} {worlds : Stage → World → Prop} {stage : Stage}
    {gathered files : List Path} {ending : Option Interruption}
    {outcome : EStateM.Result Interruption (World × List Path) Unit}
    (tour : Tour worlds Traversal.collect stage gathered files ending outcome) :
    Journey.interruption? outcome = ending ∧
      (Journey.atEnd outcome).2 = files.reverse ++ gathered ∧
      ∃ later, worlds later (Journey.atEnd outcome).1 := by
  induction tour with
  | finished inside => exact ⟨rfl, rfl, _, inside⟩
  | refused inside => exact ⟨rfl, rfl, _, inside⟩
  | visited inside done moved rest ih =>
    obtain ⟨ended, found, inside⟩ := ih
    cases done
    exact ⟨ended, by rw [found]; simp, inside⟩
  | stopped inside failed => cases failed

namespace Traversal

/-- In a tree that stands still the files of a traversal are those of its itinerary. -/
theorem files_eq_listed {host : Host World} {view : Snapshot} {worlds : World → Prop}
    (still : host.Still view worlds) (prefixes : List Text) (root : Path) {world : World}
    (inside : worlds world) :
    ∃ after, worlds after ∧ files host prefixes root world =
      (((Itinerary.ofRoot prefixes root).listed view, (Itinerary.ofRoot prefixes root).ending view),
        after) := by
  have visits : ∀ (stage : Unit) path world (gathered : List Path), worlds world →
      ∃ later : Unit, worlds (Journey.atEnd (collect path (world, gathered))).1 :=
    fun _ _ _ _ inside => ⟨(), inside⟩
  have tour := Itinerary.play_tour (fun _ => still) visits (Itinerary.ofRoot prefixes root) () inside []
  obtain ⟨ended, found, _, stays⟩ := tour.collected
  rw [← Itinerary.run_eq_play] at ended found stays
  refine ⟨_, stays, ?_⟩
  simp only [files]
  rw [← ended]
  cases ran : run host prefixes collect root (world, []) with
  | ok value state =>
    rw [ran] at found
    simp only [Journey.atEnd] at found
    simp [Journey.interruption?, Journey.atEnd, found]
  | error interruption state =>
    rw [ran] at found
    simp only [Journey.atEnd] at found
    simp [Journey.interruption?, Journey.atEnd, found]

end Traversal

end GenWalk
