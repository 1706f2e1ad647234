import GenWalk.Proofs.Traversal.Names

/-!
What a traversal keeps, whatever becomes of the tree meanwhile. A condition that no answer, no
record and no visit breaks holds until the traversal is over (`Traversal.run_keeps`); only names of
a kind that listings tell come up on the way.
-/

namespace GenWalk

/-- From a state that the first condition holds of, a journey ends in such a state again, or it is
cut short in one that the second condition holds of. -/
def Journey.Keeps {State α : Type} (good : State → Prop) (cut : Interruption → State → Prop)
    (journey : EStateM Interruption State α) : Prop :=
  ∀ state, good state → match journey state with
    | .ok _ after => good after
    | .error interruption after => cut interruption after

namespace Journey.Keeps

variable {State α β : Type} {good : State → Prop} {cut : Interruption → State → Prop}

theorem pure (value : α) : Keeps good cut (Pure.pure value : EStateM Interruption State α) :=
  fun _ start => start

theorem bind {journey : EStateM Interruption State α} {next : α → EStateM Interruption State β}
    (begins : Keeps good cut journey) (goesOn : ∀ value, Keeps good cut (next value)) :
    Keeps good cut (journey >>= next) := by
  intro state start
  have middle := begins state start
  simp only [Bind.bind, EStateM.bind]
  cases ran : journey state with
  | ok value after =>
    rw [ran] at middle
    exact goesOn value after middle
  | error interruption after =>
    rw [ran] at middle
    exact middle

theorem iff_atEnd {journey : EStateM Interruption State α} :
    Keeps good (fun _ => good) journey ↔
      ∀ state, good state → good (Journey.atEnd (journey state)) := by
  refine forall_congr' fun state => ?_
  cases journey state with
  | ok value after => rfl
  | error interruption after => rfl

end Journey.Keeps

variable {World Gathered : Type}

/-- The condition outlives every answer about names of the kind and every record, and a refusal
leads from it to the second condition. -/
structure Host.Keeps (host : Host World) (named : Text → Prop) (good : World × Gathered → Prop)
    (cut : Interruption → World × Gathered → Prop) : Prop where
  answer : ∀ question : Question, question.path.Holds named → ∀ state, good state →
    match host.answer question state.1 with
    | .ok answer after => question.Tells named answer ∧ good (after, state.2)
    | .error fault after => cut (.refused fault) (after, state.2)
  note : ∀ record state, good state → good (host.note record state.1, state.2)
  gaveUp : ∀ fault state, fault.isSystem → good state → cut (.refused fault) state

variable {host : Host World} {named : Text → Prop} {good : World × Gathered → Prop}
  {cut : Interruption → World × Gathered → Prop} {visiting : Path → Journey World Gathered Unit}

theorem Itinerary.play_keeps (keeps : host.Keeps named good cut)
    (visits : ∀ path, path.Holds named → Journey.Keeps good cut (visiting path))
    {itinerary : Itinerary} (holds : itinerary.Holds named) :
    Journey.Keeps good cut (itinerary.play host visiting) := by
  induction itinerary with
  | done => exact .pure ()
  | giveUp fault => exact fun state start => keeps.gaveUp fault state holds start
  | ask question next ih =>
    intro state start
    have answered := keeps.answer question holds.1 state start
    cases asked : host.answer question state.1 with
    | ok answer after =>
      rw [asked] at answered
      rw [play_answered host visiting state.2 asked]
      exact ih answer (holds.2 answer answered.1) _ answered.2
    | error fault after =>
      rw [asked] at answered
      rw [play_refused host visiting state.2 asked]
      exact answered
  | note message next ih =>
    exact .bind (fun state start => keeps.note _ state start) fun _ => ih holds
  | visit path next ih => exact .bind (visits path holds.1) fun _ => ih holds.2

theorem Traversal.run_keeps (keeps : host.Keeps named good cut)
    (visits : ∀ path, path.Holds named → Journey.Keeps good cut (visiting path))
    (prefixes : List Text) {root : Path} (holds : root.Holds named) :
    Journey.Keeps good cut (run host prefixes visiting root) := by
  rw [Itinerary.run_eq_play]
  exact Itinerary.play_keeps keeps visits (Itinerary.holds_ofRoot prefixes holds)

end GenWalk
