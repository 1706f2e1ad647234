import GenWalk.Proofs.Traversal.Alike
import GenWalk.Proofs.Traversal.Keeping

/-!
Two traversals that go alike as long as nothing is spoilt. What is spoilt stays so to the end of the
first of them, so that an end that is not spoilt tells that both went alike all the way
(`Traversal.run_alike_or_spoilt`).
-/

namespace GenWalk

variable {World World' Gathered Gathered' : Type} {worlds : World → World' → Prop}
  {gathered : Gathered → Gathered' → Prop} {spoilt : World × Gathered → Prop}

/-- Started together, two journeys end alike, or the first of them ends spoilt. -/
def AlikeOrSpoilt (worlds : World → World' → Prop) (gathered : Gathered → Gathered' → Prop)
    (spoilt : World × Gathered → Prop) (journey : Journey World Gathered Unit)
    (journey' : Journey World' Gathered' Unit) : Prop :=
  ∀ state state', Together worlds gathered state state' →
    EndAlike (Together worlds gathered) (journey state) (journey' state') ∨
      spoilt (Journey.atEnd (journey state))

variable {host : Host World} {host' : Host World'} {visiting : Path → Journey World Gathered Unit}
  {visiting' : Path → Journey World' Gathered' Unit}

theorem Itinerary.play_alike_or_spoilt
    (answers : ∀ question, Alike worlds (host.answer question) (host'.answer question))
    (noted : ∀ record world world', worlds world world' →
      worlds (host.note record world) (host'.note record world'))
    (keeps : host.Keeps (fun _ => True) spoilt fun _ => spoilt)
    (stays : ∀ path, Journey.Keeps spoilt (fun _ => spoilt) (visiting path))
    (visits : ∀ path, AlikeOrSpoilt worlds gathered spoilt (visiting path) (visiting' path))
    {itinerary : Itinerary} (holds : itinerary.Holds fun _ => True) :
    AlikeOrSpoilt worlds gathered spoilt (itinerary.play host visiting)
      (itinerary.play host' visiting') := by
  induction itinerary with
  | done => exact fun state state' near => Or.inl ⟨rfl, near⟩
  | giveUp fault => exact fun state state' near => Or.inl ⟨rfl, near⟩
  | ask question next ih =>
    intro state state' near
    rcases (answers question state.1 state'.1 near.1).elim with
      ⟨answer, after, after', asked, asked', later⟩ | ⟨fault, after, after', asked, asked', later⟩
    · rw [play_answered host visiting state.2 asked, play_answered host' visiting' state'.2 asked']
      have told : question.Tells (fun _ => True) answer := by
        cases question with
        | kind path => trivial
        | isDirectory path => trivial
        | names directory => exact fun _ _ => trivial
      exact ih answer (holds.2 answer told) _ _ ⟨later, near.2⟩
    · rw [play_refused host visiting state.2 asked, play_refused host' visiting' state'.2 asked']
      exact Or.inl ⟨rfl, later, near.2⟩
  | note message next ih =>
    intro state state' near
    exact ih holds _ _ ⟨noted _ state.1 state'.1 near.1, near.2⟩
  | visit path next ih =>
    intro state state' near
    rcases visits path state state' near with alike | spoils
    · rcases alike.elim with ⟨_, after, after', visited, visited', later⟩ |
        ⟨interruption, after, after', stopped, stopped', later⟩
      · rw [play_visited host visiting visited, play_visited host' visiting' visited']
        exact ih holds.2 after after' later
      · rw [play_stopped host visiting stopped, play_stopped host' visiting' stopped']
        exact Or.inl ⟨rfl, later⟩
    · -- The second traversal may go anywhere now, but the rest of the first keeps what is spoilt.
      refine Or.inr ?_
      cases visited : visiting path state with
      | ok value after =>
        rw [visited] at spoils
        rw [play_visited host visiting visited]
        exact Journey.Keeps.iff_atEnd.1 (play_keeps keeps (fun path _ => stays path) holds.2) after
          spoils
      | error interruption after =>
        rw [visited] at spoils
        rw [play_stopped host visiting visited]
        exact spoils

theorem Traversal.run_alike_or_spoilt
    (answers : ∀ question, Alike worlds (host.answer question) (host'.answer question))
    (noted : ∀ record world world', worlds world world' →
      worlds (host.note record world) (host'.note record world'))
    (keeps : host.Keeps (fun _ => True) spoilt fun _ => spoilt)
    (stays : ∀ path, Journey.Keeps spoilt (fun _ => spoilt) (visiting path))
    (visits : ∀ path, AlikeOrSpoilt worlds gathered spoilt (visiting path) (visiting' path))
    (prefixes : List Text) (root : Path) :
    AlikeOrSpoilt worlds gathered spoilt (run host prefixes visiting root)
      (run host' prefixes visiting' root) := by
  rw [Itinerary.run_eq_play, Itinerary.run_eq_play]
  exact Itinerary.play_alike_or_spoilt answers noted keeps stays visits
    (Itinerary.holds_ofRoot prefixes fun _ _ => trivial)

end GenWalk
