import GenWalk.Proofs.Traversal.Alike
import GenWalk.Proofs.Traversal.Place

/-!
Two machines that may differ behind certain places of a tree. If each of these places bears a name
that is left out or is no real directory, a traversal asks nothing about what lies behind them, and
goes the same way on both machines (`Traversal.run_alike_outside`).
-/

namespace GenWalk

/-- The place lies strictly below one of the closed ones. -/
def Behind (closed : List Text → Prop) (place : List Text) : Prop :=
  ∃ upper name lower, closed upper ∧ place = upper ++ name :: lower

variable {World World' : Type}

/-- Names of entries lead to the place, and it lies behind no closed one. -/
structure InView (closed : List Text → Prop) (place : List Text) : Prop where
  named : IsPlace place
  clear : ¬Behind closed place

def Snapshot.ListsEntries (view : Snapshot) : Prop :=
  ∀ directory names, view.names directory = .ok names → ∀ name ∈ names, IsEntryName name

/-- Two machines answer alike about a tree except for what lies behind the closed places and for the
listings of these themselves. Listings need hold their names in no common order. -/
structure Host.AlikeOutside (worlds : World → World' → Prop) (closed : List Text → Prop)
    (root : Path) (host : Host World) (host' : Host World') : Prop where
  entries : ∀ world world', worlds world world' → (host.snapshot world).ListsEntries
  kind : ∀ place, InView closed place →
    GenWalk.Alike worlds (host.kind (root.descend place)) (host'.kind (root.descend place))
  target : ∀ place, InView closed place →
    GenWalk.Alike worlds (host.target (root.descend place)) (host'.target (root.descend place))
  content : ∀ place, InView closed place →
    GenWalk.Alike worlds (host.content (root.descend place)) (host'.content (root.descend place))
  names : ∀ place, InView closed place → ¬closed place →
    GenWalk.Alike worlds (Text.sorted <$> host.names (root.descend place))
      (Text.sorted <$> host'.names (root.descend place))
  environment : ∀ world world', worlds world world' →
    host.environment world = host'.environment world'
  note : ∀ record world world', worlds world world' →
    worlds (host.note record world) (host'.note record world')

/-- Every closed place is one that a traversal does not enter: its name is left out, or what stands
there, such as a link, is no real directory. -/
def Host.Shuts (host : Host World) (prefixes : List Text) (root : Path)
    (closed : List Text → Prop) (world : World) : Prop :=
  ∀ place, closed place → (∃ upper name, place = upper ++ [name] ∧ Skipped prefixes name) ∨
    (host.kind (root.descend place)).answer world ≠ .ok .directory

theorem behind_concat {closed : List Text → Prop} {place : List Text} {name : Text}
    (behind : Behind closed (place ++ [name])) : closed place ∨ Behind closed place := by
  obtain ⟨upper, next, lower, isClosed, split⟩ := behind
  rcases split_concat split with ⟨rfl, _⟩ | ⟨rest, above⟩
  · exact Or.inl isClosed
  · exact Or.inr ⟨upper, next, rest, isClosed, above⟩

theorem inView_nil (closed : List Text → Prop) : InView closed [] where
  named := nofun
  clear := by
    rintro ⟨upper, name, lower, _, split⟩
    cases upper <;> cases split

theorem InView.child {closed : List Text → Prop} {place : List Text} {name : Text}
    (inView : InView closed place) (entered : ¬closed place) (named : IsEntryName name) :
    InView closed (place ++ [name]) where
  named other member := by
    rcases List.mem_append.1 member with above | last
    · exact inView.named other above
    · exact List.mem_singleton.1 last ▸ named
  clear behind := (behind_concat behind).elim entered inView.clear

theorem Alike.forM {S S' ε ι : Type} {related : S → S' → Prop} {visit : ι → EStateM ε S Unit}
    {visit' : ι → EStateM ε S' Unit} (items : List ι)
    (each : ∀ item ∈ items, Alike related (visit item) (visit' item)) :
    Alike related (items.forM visit) (items.forM visit') := by
  induction items with
  | nil => exact .pure ()
  | cons item rest ih =>
    exact .bind (each item List.mem_cons_self) fun _ =>
      ih fun other member => each other (List.mem_cons_of_mem item member)

/-- What goes on behind answers may depend on them only in a form that is the same on both sides. -/
theorem Alike.bind_form {S S' ε α β γ : Type} {related : S → S' → Prop} {first : EStateM ε S α}
    {second : EStateM ε S' α} {form : α → β} (next : β → EStateM ε S γ)
    (next' : β → EStateM ε S' γ) (begins : Alike related (form <$> first) (form <$> second))
    (goesOn : ∀ value,
      (∃ state state' after, related state state' ∧ (form <$> first) state = .ok value after) →
      Alike related (next value) (next' value)) :
    Alike related (first >>= fun value => next (form value))
      (second >>= fun value => next' (form value)) := by
  have joined := begins.bind_told goesOn
  rwa [bind_map_left, bind_map_left] at joined

theorem Journey.ask_map {Gathered α β : Type} (change : α → β) (query : Query World α) :
    change <$> ask query = (ask (change <$> query) : Journey World Gathered β) := by
  funext state
  simp only [ask, Functor.map, EStateM.map]
  cases query state.1 with
  | ok value after => rfl
  | error fault after => rfl

theorem Journey.answer_of_ask {Gathered α : Type} {query : Query World α}
    {state after : World × Gathered} {value : α} (asked : ask query state = .ok value after) :
    query.answer state.1 = .ok value := by
  simp only [ask] at asked
  rw [Query.answer]
  cases answered : query state.1 with
  | ok answer later =>
    rw [answered] at asked
    cases asked
    rfl
  | error fault later =>
    rw [answered] at asked
    cases asked

theorem Query.answer_map {α β : Type} (change : α → β) (query : Query World α) (world : World) :
    (change <$> query).answer world = (query.answer world).map change := by
  simp only [answer, Functor.map, EStateM.map]
  cases query world with
  | ok value after => rfl
  | error fault after => rfl

namespace Traversal

variable {Gathered Gathered' : Type} {worlds : World → World' → Prop}
  {gathered : Gathered → Gathered' → Prop} {closed : List Text → Prop} {root : Path}
  {host : Host World} {host' : Host World'} {prefixes : List Text}
  {visiting : Path → Journey World Gathered Unit}
  {visiting' : Path → Journey World' Gathered' Unit}

theorem not_closed_of_told {place : List Text}
    (shut : ∀ world world', worlds world world' → host.Shuts prefixes root closed world)
    (kept : ∀ upper name, place = upper ++ [name] → ¬Skipped prefixes name)
    (told : ∃ (state : World × Gathered) (state' : World' × Gathered') (after : World × Gathered),
      Together worlds gathered state state' ∧
        Journey.ask (host.kind (root.descend place)) state = .ok .directory after) :
    ¬closed place := by
  intro isClosed
  obtain ⟨state, state', after, near, asked⟩ := told
  rcases shut state.1 state'.1 near.1 place isClosed with ⟨upper, name, split, skipped⟩ | unreal
  · exact kept upper name split skipped
  · exact unreal (Journey.answer_of_ask asked)

theorem named_of_told (hosts : host.AlikeOutside worlds closed root host') {directory : Path}
    {names : List Text}
    (told : ∃ (state : World × Gathered) (state' : World' × Gathered') (after : World × Gathered),
      Together worlds gathered state state' ∧
        (Text.sorted <$> Journey.ask (host.names directory)) state = .ok names after) :
    ∀ name ∈ names, IsEntryName name := by
  obtain ⟨state, state', after, near, asked⟩ := told
  rw [Journey.ask_map] at asked
  have answered := Journey.answer_of_ask asked
  rw [Query.answer_map] at answered
  cases listing : (host.names directory).answer state.1 with
  | ok listed =>
    rw [listing] at answered
    cases answered
    intro name member
    exact hosts.entries state.1 state'.1 near.1 directory listed listing name
      ((Text.mem_sorted name listed).1 member)
  | error fault =>
    rw [listing] at answered
    cases answered

theorem below_alike_outside (hosts : host.AlikeOutside worlds closed root host')
    (shut : ∀ world world', worlds world world' → host.Shuts prefixes root closed world)
    (visits : ∀ place, InView closed place → Alike (Together worlds gathered)
      (visiting (root.descend place)) (visiting' (root.descend place)))
    (depth : Nat) {place : List Text} (entered : ¬closed place) (inView : InView closed place) :
    Alike (Together worlds gathered) (below host prefixes visiting depth (root.descend place))
      (below host' prefixes visiting' depth (root.descend place)) := by
  induction depth generalizing place with
  | zero => exact .throw _
  | succ depth ih =>
    simp only [below]
    have listings : Alike (Together worlds gathered)
        (Text.sorted <$> Journey.ask (host.names (root.descend place)))
        (Text.sorted <$> Journey.ask (host'.names (root.descend place))) := by
      rw [Journey.ask_map, Journey.ask_map]
      exact .ask (hosts.names place inView entered)
    -- Listings in another order are the same once they are sorted.
    refine .bind_form (fun names => List.forM names _) (fun names => List.forM names _) listings
      fun names told => ?_
    have named := named_of_told hosts told
    refine .forM names fun name member => ?_
    have child := inView.child entered (named name member)
    have kinds := hosts.kind _ child
    have targets := hosts.target _ child
    have visited := visits _ child
    rw [← Path.descend_concat]
    refine .bind_told (.ask kinds) fun kind told => ?_
    cases kind with
    | directory =>
      simp only
      cases enters : Visit.of prefixes (root.descend (place ++ [name])) with
      | skip => exact .note hosts.note _ _ _
      | enter =>
        refine ih (not_closed_of_told shut (fun upper last split => ?_) told) child
        obtain ⟨_, same⟩ := List.append_inj' split rfl
        cases same
        rw [Path.descend_concat] at enters
        exact not_skipped_of_enter enters
    | link =>
      refine .bind (.ask (.leadsTo .directory targets)) fun isDirectory => ?_
      cases isDirectory with
      | true => exact .pure ()
      | false => exact visited
    | file => exact visited
    | device => exact visited

theorem run_alike_outside (hosts : host.AlikeOutside worlds closed root host')
    (shut : ∀ world world', worlds world world' → host.Shuts prefixes root closed world)
    (visits : ∀ place, InView closed place → Alike (Together worlds gathered)
      (visiting (root.descend place)) (visiting' (root.descend place))) :
    Alike (Together worlds gathered) (run host prefixes visiting root)
      (run host' prefixes visiting' root) := by
  have atRoot := inView_nil closed
  have kinds := hosts.kind [] atRoot
  have targets := hosts.target [] atRoot
  have visited := visits [] atRoot
  rw [Path.descend_nil] at kinds targets visited
  refine .bind_told (.ask kinds) fun kind told => ?_
  cases kind with
  | directory =>
    have entered : ¬closed [] := by
      rw [← Path.descend_nil root] at told
      exact not_closed_of_told shut (fun upper name split => by simp at split) told
    have next := below_alike_outside hosts shut visits depthLimit entered atRoot
    rw [Path.descend_nil] at next
    exact next
  | link =>
    refine .bind (.ask (.leadsTo .directory targets)) fun isDirectory => ?_
    cases isDirectory with
    | true => exact .note hosts.note _ _ _
    | false => exact visited
  | file => exact visited
  | device => exact visited

end Traversal

end GenWalk
