import GenWalk.Proofs.Traversal.Snapshot

/-!
Two machines that answer alike. Where their worlds are related and every question leads to the same
answer and to related worlds again, a traversal goes the same way on both (`Alike.play`).
-/

namespace GenWalk

variable {S S' ε α β : Type}

/-- Two computations ended alike: with the same value or the same fault, in related states. -/
def EndAlike (related : S → S' → Prop) : EStateM.Result ε S α → EStateM.Result ε S' α → Prop
  | .ok value state, .ok value' state' => value = value' ∧ related state state'
  | .error fault state, .error fault' state' => fault = fault' ∧ related state state'
  | _, _ => False

theorem EndAlike.elim {related : S → S' → Prop} {first : EStateM.Result ε S α}
    {second : EStateM.Result ε S' α} (alike : EndAlike related first second) :
    (∃ value state state', first = .ok value state ∧ second = .ok value state' ∧
      related state state') ∨
    ∃ fault state state', first = .error fault state ∧ second = .error fault state' ∧
      related state state' := by
  cases first with
  | ok value state =>
    cases second with
    | ok value' state' =>
      obtain ⟨rfl, near⟩ := alike
      exact Or.inl ⟨value, state, state', rfl, rfl, near⟩
    | error fault' state' => exact False.elim alike
  | error fault state =>
    cases second with
    | ok value' state' => exact False.elim alike
    | error fault' state' =>
      obtain ⟨rfl, near⟩ := alike
      exact Or.inr ⟨fault, state, state', rfl, rfl, near⟩

def Alike (related : S → S' → Prop) (first : EStateM ε S α) (second : EStateM ε S' α) : Prop :=
  ∀ state state', related state state' → EndAlike related (first state) (second state')

namespace Alike

variable {related : S → S' → Prop}

theorem pure (value : α) :
    Alike related (Pure.pure value : EStateM ε S α) (Pure.pure value : EStateM ε S' α) :=
  fun _ _ start => ⟨rfl, start⟩

theorem throw (fault : ε) :
    Alike related (MonadExcept.throw fault : EStateM ε S α) (MonadExcept.throw fault : EStateM ε S' α) :=
  fun _ _ start => ⟨rfl, start⟩

theorem bind_told {first : EStateM ε S α} {second : EStateM ε S' α} {next : α → EStateM ε S β}
    {next' : α → EStateM ε S' β} (begins : Alike related first second)
    (goesOn : ∀ value,
      (∃ state state' after, related state state' ∧ first state = .ok value after) →
      Alike related (next value) (next' value)) :
    Alike related (first >>= next) (second >>= next') := by
  intro state state' start
  simp only [Bind.bind, EStateM.bind]
  rcases (begins state state' start).elim with ⟨value, after, after', ran, ran', near⟩ |
    ⟨fault, after, after', ran, ran', near⟩
  · rw [ran, ran']
    exact goesOn value ⟨state, state', after, start, ran⟩ after after' near
  · rw [ran, ran']
    exact ⟨rfl, near⟩

theorem bind {first : EStateM ε S α} {second : EStateM ε S' α} {next : α → EStateM ε S β}
    {next' : α → EStateM ε S' β} (begins : Alike related first second)
    (goesOn : ∀ value, Alike related (next value) (next' value)) :
    Alike related (first >>= next) (second >>= next') :=
  begins.bind_told fun value _ => goesOn value

end Alike

variable {World World' Gathered Gathered' : Type}

/-- States of a journey that belong together, in the world and in what has been gathered. -/
def Together (worlds : World → World' → Prop) (gathered : Gathered → Gathered' → Prop)
    (state : World × Gathered) (state' : World' × Gathered') : Prop :=
  worlds state.1 state'.1 ∧ gathered state.2 state'.2

theorem EndAlike.of_whole {worlds : World → World' → Prop} {gathered : Gathered → Gathered' → Prop}
    {whole : EStateM.Result ε (World × Gathered) α} {whole' : EStateM.Result ε (World' × Gathered') α}
    {part : EStateM.Result ε World α} {part' : EStateM.Result ε World' α}
    (alike : EndAlike (Together worlds gathered) whole whole')
    (reduced : EndAlike (fun whole part => whole.1 = part) whole part)
    (reduced' : EndAlike (fun whole part => whole.1 = part) whole' part') :
    EndAlike worlds part part' := by
  rcases alike.elim with ⟨value, state, state', rfl, rfl, near⟩ |
    ⟨fault, state, state', rfl, rfl, near⟩
  · rcases reduced.elim with ⟨_, _, _, same, rfl, rfl⟩ | ⟨_, _, _, same, _⟩
    · rcases reduced'.elim with ⟨_, _, _, same', rfl, rfl⟩ | ⟨_, _, _, same', _⟩
      · cases same
        cases same'
        exact ⟨rfl, near.1⟩
      · cases same'
    · cases same
  · rcases reduced.elim with ⟨_, _, _, same, _⟩ | ⟨_, _, _, same, rfl, rfl⟩
    · cases same
    · rcases reduced'.elim with ⟨_, _, _, same', _⟩ | ⟨_, _, _, same', rfl, rfl⟩
      · cases same'
      · cases same
        cases same'
        exact ⟨rfl, near.1⟩

/-- Two machines that are asked and told the same in related worlds answer alike. -/
structure Host.Alike (worlds : World → World' → Prop) (host : Host World) (host' : Host World') :
    Prop where
  kind : ∀ path, GenWalk.Alike worlds (host.kind path) (host'.kind path)
  target : ∀ path, GenWalk.Alike worlds (host.target path) (host'.target path)
  names : ∀ path, GenWalk.Alike worlds (host.names path) (host'.names path)
  content : ∀ path, GenWalk.Alike worlds (host.content path) (host'.content path)
  environment : ∀ world world', worlds world world' →
    host.environment world = host'.environment world'
  note : ∀ record world world', worlds world world' →
    worlds (host.note record world) (host'.note record world')

variable {worlds : World → World' → Prop} {gathered : Gathered → Gathered' → Prop}
  {host : Host World} {host' : Host World'}

theorem Alike.ask {query : Query World α} {query' : Query World' α} (same : Alike worlds query query') :
    Alike (Together worlds gathered) (Journey.ask query) (Journey.ask query') := by
  intro state state' start
  simp only [Journey.ask]
  rcases (same state.1 state'.1 start.1).elim with ⟨value, after, after', ran, ran', near⟩ |
    ⟨fault, after, after', ran, ran', near⟩
  · rw [ran, ran']
    exact ⟨rfl, near, start.2⟩
  · rw [ran, ran']
    exact ⟨rfl, near, start.2⟩

theorem Alike.gather {change : Gathered → Gathered} {change' : Gathered' → Gathered'}
    (keeps : ∀ before before', gathered before before' → gathered (change before) (change' before')) :
    Alike (Together worlds gathered) (Journey.gather change : Journey World Gathered Unit)
      (Journey.gather change') :=
  fun _ _ start => ⟨rfl, start.1, keeps _ _ start.2⟩

theorem Alike.note
    (noted : ∀ record world world', worlds world world' →
      worlds (host.note record world) (host'.note record world'))
    (level : Level) (source message : Text) :
    Alike (Together worlds gathered) (Journey.note host level source message)
      (Journey.note host' level source message) :=
  fun _ _ start => ⟨rfl, noted _ _ _ start.1, start.2⟩

theorem Alike.leadsTo (wanted : EntryKind) {path path' : Path}
    (targets : Alike worlds (host.target path) (host'.target path')) :
    Alike worlds (host.leadsTo wanted path) (host'.leadsTo wanted path') := by
  intro world world' start
  simp only [Host.leadsTo]
  rcases (targets world world' start).elim with ⟨value, after, after', ran, ran', near⟩ |
    ⟨fault, after, after', ran, ran', near⟩
  · rw [ran, ran']
    exact ⟨rfl, near⟩
  · rw [ran, ran']
    simp only
    split
    next => exact ⟨rfl, near⟩
    next => exact ⟨rfl, near⟩

theorem Query.through_alike {Extra : Type} (query : Query World α) :
    Alike (fun (whole : World × Extra) world => whole.1 = world)
      (query.through Prod.fst fun world whole => (world, whole.2)) query := by
  rintro ⟨world, extra⟩ _ rfl
  simp only [Query.through]
  cases query world with
  | ok value after => exact ⟨rfl, rfl⟩
  | error fault after => exact ⟨rfl, rfl⟩

theorem Alike.through {Extra Extra' α : Type} {extras : Extra → Extra' → Prop}
    {query : Query World α} {query' : Query World' α} (same : Alike worlds query query') :
    Alike (Together worlds extras) (query.through Prod.fst fun world whole => (world, whole.2))
      (query'.through Prod.fst fun world whole => (world, whole.2)) := by
  intro whole whole' near
  simp only [Query.through]
  rcases (same whole.1 whole'.1 near.1).elim with ⟨value, after, after', ran, ran', later⟩ |
    ⟨fault, after, after', ran, ran', later⟩
  · rw [ran, ran']
    exact ⟨rfl, later, near.2⟩
  · rw [ran, ran']
    exact ⟨rfl, later, near.2⟩

theorem Query.ofAnswer_alike {α : Type} {worlds : World → World' → Prop}
    {answer answer' : Except Fault α} (same : answer = answer') :
    Alike worlds (ofAnswer fun _ => answer) (ofAnswer fun _ => answer') := by
  intro world world' near
  rw [same]
  cases answer' with
  | ok value => exact ⟨rfl, near⟩
  | error fault => exact ⟨rfl, near⟩

namespace Host.Alike

theorem noted (alike : host.Alike worlds host') (level : Level) (source message : Text) :
    GenWalk.Alike (Together worlds gathered) (Journey.note host level source message)
      (Journey.note host' level source message) :=
  .note alike.note level source message

theorem isDirectory (alike : host.Alike worlds host') (path : Path) :
    GenWalk.Alike worlds (host.isDirectory path) (host'.isDirectory path) :=
  .leadsTo .directory (alike.target path)

theorem answer (alike : host.Alike worlds host') (question : Question) :
    GenWalk.Alike worlds (host.answer question) (host'.answer question) := by
  cases question with
  | kind path => exact alike.kind path
  | isDirectory path => exact alike.isDirectory path
  | names directory => exact alike.names directory

theorem play (alike : host.Alike worlds host') {visiting : Path → Journey World Gathered Unit}
    {visiting' : Path → Journey World' Gathered' Unit}
    (visits : ∀ path, GenWalk.Alike (Together worlds gathered) (visiting path) (visiting' path))
    (itinerary : Itinerary) :
    GenWalk.Alike (Together worlds gathered) (itinerary.play host visiting)
      (itinerary.play host' visiting') := by
  induction itinerary with
  | done => exact .pure ()
  | giveUp fault => exact .throw _
  | ask question next ih => exact .bind (.ask (alike.answer question)) ih
  | note message next ih => exact .bind (alike.noted _ _ _) fun _ => ih
  | visit path next ih => exact .bind (visits path) fun _ => ih

end Host.Alike

end GenWalk
