import GenWalk.Proofs.Machine.Apart
import GenWalk.Proofs.Walk.Preview
import GenWalk.Proofs.Walk.Staged

/-!
What a walk does not descend into cannot affect it. Directories that are left out by their names and
those to which only links lead may hold and list whatever they like, or refuse to be listed; the main
statement is `Walk.blind_to_pruned`.
-/

namespace GenWalk

variable {World World' : Type} {worlds : World → World' → Prop} {closed : List Text → Prop}
  {root : Path} {host : Host World} {host' : Host World'} {adapter : Adapter World}
  {adapter' : Adapter World'}

theorem Query.map_through {Extra α β : Type} (change : α → β) (query : Query World α) :
    change <$> query.through Prod.fst (fun world (whole : World × Extra) => (world, whole.2)) =
      Query.through Prod.fst (fun world whole => (world, whole.2)) (change <$> query) := by
  funext whole
  simp only [through, Functor.map, EStateM.map]
  cases query whole.1 with
  | ok value after => rfl
  | error fault after => rfl

theorem Query.answer_through {Extra α : Type} (query : Query World α) (whole : World × Extra) :
    (query.through Prod.fst fun world whole => (world, whole.2)).answer whole =
      query.answer whole.1 := by
  simp only [answer, through]
  cases query whole.1 with
  | ok value after => rfl
  | error fault after => rfl

theorem Host.AlikeOutside.watched (hosts : host.AlikeOutside worlds closed root host') :
    host.watched.AlikeOutside (Together worlds Eq) closed root host'.watched where
  entries whole whole' near directory names listed := by
    refine hosts.entries whole.1 whole'.1 near.1 directory names ?_
    rw [← listed]
    exact (Query.answer_through (host.names directory) whole).symm
  kind place inView := (hosts.kind place inView).through
  target place inView := (hosts.target place inView).through
  content place inView := by
    rintro ⟨world, events⟩ ⟨world', _⟩ ⟨near, rfl⟩
    rcases (hosts.content place inView world world' near).elim with
      ⟨content, after, after', read, read', later⟩ | ⟨fault, after, after', refused, refused', later⟩
    · rw [watched_read read, watched_read read']
      exact ⟨rfl, later, rfl⟩
    · rw [watched_refused refused, watched_refused refused']
      exact ⟨rfl, later, rfl⟩
  names place inView entered := by
    have listings : GenWalk.Alike (Together worlds (Eq : List Event → List Event → Prop)) _ _ :=
      (hosts.names place inView entered).through
    rw [← Query.map_through, ← Query.map_through] at listings
    exact listings
  environment whole whole' near := hosts.environment whole.1 whole'.1 near.1
  note record whole whole' near := ⟨hosts.note record whole.1 whole'.1 near.1, near.2⟩

theorem Adapter.Alike.watched (adapters : adapter.Alike worlds adapter') :
    adapter.watched.Alike (Together worlds Eq) adapter'.watched where
  name := adapters.name
  objection? := adapters.objection?
  execute := by
    rintro context ⟨world, events⟩ ⟨world', _⟩ ⟨near, rfl⟩
    obtain ⟨same, later⟩ := adapters.execute context world world' near
    simp only [Adapter.watched, same]
    exact ⟨trivial, later, rfl⟩

namespace Walk

theorem run_alike_outside (request : WalkRequest)
    (hosts : host.AlikeOutside worlds closed (Path.ofText request.root) host')
    (shut : ∀ world world', worlds world world' →
      host.Shuts request.settings.skipPrefixes (Path.ofText request.root) closed world)
    (adapters : adapter.Alike worlds adapter') :
    Alike worlds (run host adapter request) (run host' adapter' request) := by
  intro world world' near
  have visits (place : List Text) (inView : InView closed place) :=
    visit_alike hosts.note hosts.environment adapters request (hosts.content place inView)
  have traversed := Traversal.run_alike_outside hosts shut visits
  exact run_alike_of_traversal hosts.note rfl rfl (traversed (world, {}) (world', {}) ⟨near, rfl⟩)

/-- Two trees may differ in whatever lies behind names that are left out and behind links, and in the
listings there: a walk has the same result in both, opens the same files and runs the same generators.
-/
theorem blind_to_pruned (request : WalkRequest)
    (hosts : host.AlikeOutside worlds closed (Path.ofText request.root) host')
    (shut : ∀ world world', worlds world world' →
      host.Shuts request.settings.skipPrefixes (Path.ofText request.root) closed world)
    (adapters : adapter.Alike worlds adapter') (world : World) (world' : World')
    (near : worlds world world') :
    EndAlike worlds (run host adapter request world) (run host' adapter' request world') ∧
      trace host adapter request world = trace host' adapter' request world' := by
  refine ⟨run_alike_outside request hosts shut adapters world world' near, ?_⟩
  have shut' : ∀ whole whole', Together worlds Eq whole whole' →
      host.watched.Shuts request.settings.skipPrefixes (Path.ofText request.root) closed whole := by
    intro whole whole' near place isClosed
    have told := shut whole.1 whole'.1 near.1 place isClosed
    rw [← Query.answer_through] at told
    exact told
  have alike := run_alike_outside request hosts.watched shut' adapters.watched (world, []) (world', [])
    ⟨near, rfl⟩
  rcases alike.elim with ⟨_, _, _, ran, ran', _, same⟩ | ⟨_, _, _, ran, ran', _, same⟩
  · rw [trace, trace, ran, ran']
    exact same
  · rw [trace, trace, ran, ran']
    exact same

def hedge : Machine where
  disk := ⟨[(["r"], .directory Entry.usualDirectoryMode),
    (["r", "a"], .file Entry.usualFileMode (.bytes (Utf8.encode "#go x\n"))),
    (["r", ".git"], .directory Entry.usualDirectoryMode),
    (["r", "out"], .link "/s"),
    (["s"], .directory Entry.usualDirectoryMode)]⟩

def wildHedge : Machine :=
  { hedge with
    disk := (hedge.disk.insert ["r", ".git", "b"]
      (.file Entry.usualFileMode (.bytes (Utf8.encode "#go y")))).insert ["s", "t"] (.link "/lost") }

def hedgeClosed (location : Location) : Prop :=
  location = ["r", ".git"] ∨ location = ["r", "out"] ∨ location = ["s"]

/-- The hedge with and without its wild parts, behind one console. -/
def Hedges (machine machine' : Machine) : Prop :=
  ∃ console, machine = { hedge with console } ∧ machine' = { wildHedge with console }

theorem hedge_agrees : hedge.disk.AgreeOutside hedgeClosed wildHedge.disk := by
  have same : hedge.disk.AgreeOutside hedgeClosed hedge.disk := ⟨fun _ _ => rfl, fun _ _ _ => rfl⟩
  exact (same.insert ⟨["r", ".git"], "b", [], Or.inl rfl, rfl⟩ _).insert
    ⟨["s"], "t", [], Or.inr (Or.inr rfl), rfl⟩ _

theorem inView_single (name : Text) (named : IsEntryName name) : InView hedgeClosed [name] where
  named other member := List.mem_singleton.1 member ▸ named
  clear := by
    rintro ⟨fence, next, rest, rfl | rfl | rfl, same⟩
    · cases same
    · cases same
    · cases same

theorem hedge_fenced : hedge.disk.Fenced hedgeClosed where
  named directory name listed := by
    have all : ∀ location ∈ hedge.disk.entries.map Prod.fst, ∀ name ∈ location, IsEntryName name := by
      decide
    exact all _ (Disk.mem_entries_of_mem_names listed) name (by simp)
  link directory name target _ met := by
    have member := Disk.mem_entries_of_entry? met (by simp)
    simp only [hedge, List.mem_cons, Prod.mk.injEq, reduceCtorEq, and_false, false_or, or_false,
      List.not_mem_nil, Entry.link.injEq] at member
    obtain ⟨same, rfl⟩ := member
    have split : directory ++ [name] = [Text.ofString "r"] ++ [Text.ofString "out"] := same
    obtain ⟨rfl, _⟩ := List.append_inj' split rfl
    have leads : Lookup.located ["r"] (Text.ofString "/s") = ["s"] := by decide
    rw [same, leads]
    exact ⟨Or.inr (Or.inl rfl), inView_single "s" (by decide)⟩

theorem hedge_shut (machine machine' : Machine) (near : Hedges machine machine') :
    Machine.host.Shuts ["."] "r" (fun place => hedgeClosed (Machine.locationOf [] "r" ++ place))
      machine := by
  obtain ⟨console, rfl, _⟩ := near
  have atRoot : Machine.locationOf [] "r" = ["r"] := by decide
  intro place isClosed
  rw [atRoot] at isClosed
  rcases isClosed with git | out | elsewhere
  · obtain rfl : place = [Text.ofString ".git"] := List.append_cancel_left git
    exact Or.inl ⟨[], ".git", rfl, ".", List.mem_singleton_self _, by decide⟩
  · obtain rfl : place = [Text.ofString "out"] := List.append_cancel_left out
    have kind : hedge.kind false (Path.descend "r" ["out"]).toText = .ok .link := by cbv
    simp only [Machine.host, Machine.answer_look]
    refine Or.inr fun directory => ?_
    cases kind.symm.trans directory
  · exact absurd (List.cons.inj elsewhere).1 (by decide)

theorem hedges_alike : Machine.host.AlikeOutside Hedges
    (fun place => hedgeClosed (Machine.locationOf [] "r" ++ place)) "r" Machine.host := by
  refine Machine.host_alikeOutside ?_ ?_ (inView_single "r" (by decide))
  · rintro machine machine' ⟨console, rfl, rfl⟩
    exact ⟨rfl, rfl, hedge_agrees, hedge_fenced⟩
  · rintro record machine machine' ⟨console, rfl, rfl⟩
    have deliveries : hedge.journal.deliveries hedge.clock record = [] ∨
        hedge.journal.deliveries hedge.clock record = [(.console, record.message)] := by
      simp only [Journal.deliveries, hedge, List.isEmpty_nil, if_true]
      grind
    rcases deliveries with none | one
    · exact ⟨console, congrArg (List.foldl Machine.deliver _) none,
        congrArg (List.foldl Machine.deliver _) none⟩
    · exact ⟨_, congrArg (List.foldl Machine.deliver _) one,
        congrArg (List.foldl Machine.deliver _) one⟩

theorem hedge_blind :
    let request : WalkRequest :=
      { root := "r", settings := { keyword := "go ", skipPrefixes := ["."] } }
    let closed := fun place => hedgeClosed (Machine.locationOf [] "r" ++ place)
    Machine.host.AlikeOutside Hedges closed "r" Machine.host ∧
      (∀ machine machine', Hedges machine machine' → Machine.host.Shuts ["."] "r" closed machine) ∧
      idle.Alike Hedges idle ∧ Hedges hedge wildHedge ∧
      hedge.names "r/.git" ≠ wildHedge.names "r/.git" ∧
      (∃ result, (run Machine.host idle request).answer hedge = .ok result ∧
        (run Machine.host idle request).answer wildHedge = .ok result ∧
        result.books.directives.map Directive.path = [("r/a" : Text)]) ∧
      trace Machine.host idle request hedge = trace Machine.host idle request wildHedge := by
  intro request closed
  have adapters : idle.Alike Hedges idle := ⟨rfl, rfl, fun _ _ _ near => ⟨rfl, near⟩⟩
  have near : Hedges hedge wildHedge := ⟨[], rfl, rfl⟩
  obtain ⟨alike, seen⟩ := blind_to_pruned request hedges_alike hedge_shut adapters hedge wildHedge near
  have paths : ((run Machine.host idle request).answer hedge).map
      (fun result => result.books.directives.map Directive.path) = .ok [("r/a" : Text)] := by
    cbv
  have listings : hedge.names "r/.git" ≠ wildHedge.names "r/.git" := by
    have bare : hedge.names "r/.git" = .ok [] := by cbv
    have wild : wildHedge.names "r/.git" = .ok ["b"] := by cbv
    rw [bare, wild]
    intro same
    cases same
  refine ⟨hedges_alike, hedge_shut, adapters, near, listings, ?_, seen⟩
  rcases alike.elim with ⟨result, _, _, ran, ran', _⟩ | ⟨fault, _, _, ran, _⟩
  · rw [Query.answer, ran] at paths
    exact ⟨result, by rw [Query.answer, ran], by rw [Query.answer, ran'], Except.ok.inj paths⟩
  · rw [Query.answer, ran] at paths
    cases paths

end Walk

end GenWalk
