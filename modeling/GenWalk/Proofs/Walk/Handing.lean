import GenWalk.Proofs.Walk.Alike
import GenWalk.Proofs.Walk.Invariant
import GenWalk.Proofs.Walk.Staged

/-!
What a walk hands to its adapter. Each context is made of the file read just before, of the request
and of the base environment, and of nothing else, so that no directive can be seen in the context of
another one; the main statement is `Walk.handed_own`.
-/

namespace GenWalk

/-- A file that is read, with the environment that the program has at this moment, or a context that
is handed over. -/
inductive Sight where
  | read (path : Path) (content : Bytes) (environment : Environment)
  | handed (context : Context)

def Sight.command? : Sight → Option Text
  | read _ _ _ => none
  | handed context => some context.command

variable {World : Type}

def Host.sighted (host : Host World) : Host (World × List Sight) :=
  { host.through Prod.fst fun world whole => (world, whole.2) with
    content path := fun (world, sights) => match host.content path world with
      | .ok content after =>
        .ok content (after, sights ++ [.read path content (host.environment after)])
      | .error fault after => .error fault (after, sights) }

def Adapter.sighted (adapter : Adapter World) : Adapter (World × List Sight) where
  name := adapter.name
  objection? := adapter.objection?
  execute context whole :=
    let (receipt, after) := adapter.execute context whole.1
    (receipt, (after, whole.2 ++ [.handed context]))

theorem Host.sighted_alike (host : Host World) :
    host.sighted.Alike (fun whole world => whole.1 = world) host where
  kind path := (host.kind path).through_alike
  target path := (host.target path).through_alike
  names path := (host.names path).through_alike
  content path := by
    rintro ⟨world, sights⟩ _ rfl
    simp only [sighted]
    cases host.content path world with
    | ok content after => exact ⟨rfl, rfl⟩
    | error fault after => exact ⟨rfl, rfl⟩
  environment := by
    rintro ⟨world, sights⟩ _ rfl
    rfl
  note := by
    rintro record ⟨world, sights⟩ _ rfl
    rfl

theorem Adapter.sighted_alike (adapter : Adapter World) :
    adapter.sighted.Alike (fun whole world => whole.1 = world) adapter where
  name := rfl
  objection? := rfl
  execute := by
    rintro context ⟨world, sights⟩ _ rfl
    exact ⟨rfl, rfl⟩

theorem Query.ended_through {Extra α : Type} (query : Query World α) (whole : World × Extra) :
    (ended (query.through Prod.fst (fun world whole => (world, whole.2)) whole)).2 = whole.2 := by
  simp only [Query.through]
  cases query whole.1 with
  | ok value after => rfl
  | error fault after => rfl

theorem Host.sighted_content {host : Host World} {path : Path} {content : Bytes}
    {whole after : World × List Sight}
    (read : host.sighted.content path whole = .ok content after) :
    after.2 = whole.2 ++ [.read path content (host.sighted.environment after)] := by
  obtain ⟨world, sights⟩ := whole
  simp only [sighted] at read
  split at read
  next =>
    cases read
    rfl
  next => cases read

namespace Walk

/-- The environment in which a command is expanded: the base, with three variables that speak of the
directive over it. -/
def layered (base : Environment) (directive : Directive) : Environment :=
  ((base.set Directive.commandVariable directive.command).set Directive.fileVariable
    directive.path).set Directive.directoryVariable directive.root

/-- The context is that of the command in the content of a file, over a base environment. -/
structure OwnContext (request : WalkRequest) (path : Path) (content : Bytes) (base : Environment)
    (context : Context) : Prop where
  command : FirstLine.read request.settings.keyword content = .command context.directive.command
  filled : context.directive.command ≠ []
  path : context.directive.path = path.toText
  root : context.directive.root = request.root
  expanded : context.directive.expanded =
    Template.expand context.directive.command (layered base context.directive)
  environment : context.environment = (layered base context.directive).set
    Directive.expandedVariable context.directive.expanded
  others : ∀ name, name ≠ Directive.commandVariable → name ≠ Directive.fileVariable →
    name ≠ Directive.directoryVariable → name ≠ Directive.expandedVariable →
    context.environment.get? name = base.get? name

theorem ownContext_contextOf {request : WalkRequest} {content : Bytes} {command : Text}
    (told : FirstLine.read request.settings.keyword content = .command command)
    (filled : command ≠ []) (path : Path) (base : Environment) :
    OwnContext request path content base (contextOf command path.toText request.root base) where
  command := told
  filled
  path := rfl
  root := rfl
  expanded := rfl
  environment := rfl
  others name notCommand notFile notDirectory notExpanded := by
    have environment : (contextOf command path.toText request.root base).environment =
      (layered base (contextOf command path.toText request.root base).directive).set
        Directive.expandedVariable _ := rfl
    rw [environment]
    simp only [layered, Environment.get?_set, notCommand, notFile, notDirectory, notExpanded,
      if_false]

/-- Whatever is handed over has been read just before. -/
def Told (request : WalkRequest) (sights : List Sight) : Prop :=
  ∀ before context later, sights = before ++ .handed context :: later →
    ∃ earlier path content environment, before = earlier ++ [.read path content environment] ∧
      OwnContext request path content (request.base.getD environment) context

variable {request : WalkRequest} {sights : List Sight}

theorem told_nothing (request : WalkRequest) : Told request [] := by
  intro before context later split
  cases before <;> cases split

theorem Told.concat (told : Told request sights) {sight : Sight}
    (last : ∀ context, sight = .handed context → ∃ earlier path content environment,
      sights = earlier ++ [.read path content environment] ∧
        OwnContext request path content (request.base.getD environment) context) :
    Told request (sights ++ [sight]) := by
  intro before context later split
  -- Sights come at the end, so the list is taken apart there.
  rcases List.eq_nil_or_concat later with rfl | ⟨more, final, rfl⟩
  · obtain ⟨rfl, same⟩ := List.append_inj' split rfl
    exact last context (List.cons.inj same).1
  · rw [List.concat_eq_append, ← List.cons_append, ← List.append_assoc] at split
    exact told before context more (List.append_inj' split rfl).1

variable {host : Host World} {adapter : Adapter World}

/-- What is so of the sights outlives a walk if it outlives one more file and the context of the file
that was read last. -/
theorem kept_sights {good : List Sight → Prop}
    (read : ∀ sights path before content after, good sights →
      host.content path before = .ok content after →
      good (sights ++ [.read path content (host.environment after)]))
    (handed : ∀ sights path content environment command,
      good (sights ++ [.read path content environment]) →
      FirstLine.read request.settings.keyword content = .command command → command ≠ [] →
      good (sights ++ [.read path content environment] ++ [.handed (contextOf command path.toText
        request.root (request.base.getD environment))])) :
    Kept host.sighted adapter.sighted request fun whole => good whole.2 where
  kind path whole start := (Query.ended_through (host.kind path) whole).symm ▸ start
  target path whole start := (Query.ended_through (host.target path) whole).symm ▸ start
  names path whole start := (Query.ended_through (host.names path) whole).symm ▸ start
  content path whole start := by
    obtain ⟨world, sights⟩ := whole
    simp only [Host.sighted]
    cases asked : host.content path world with
    | ok content after => exact read sights path world content after start asked
    | error fault after => exact start
  note record whole start := start
  execute _ path whole content after command start asked told filled := by
    obtain ⟨world, sights⟩ := whole
    simp only [Host.sighted] at asked
    cases got : host.content path world with
    | error fault later =>
      rw [got] at asked
      cases asked
    | ok value later =>
      rw [got] at asked
      cases asked
      exact handed sights path content _ command (read sights path world content later start got) told
        filled

theorem kept_told (host : Host World) (adapter : Adapter World) (request : WalkRequest) :
    Kept host.sighted adapter.sighted request fun whole => Told request whole.2 := by
  apply kept_sights
  · exact fun sights path before content after told _ => told.concat nofun
  · intro sights path content environment command here line filled
    refine here.concat fun context same => ?_
    cases same
    exact ⟨sights, path, content, environment, rfl, ownContext_contextOf line filled path _⟩

/-- Every context that a walk hands over is that of the file it has read last, and a part of the
world that machine and generators leave alone, such as the base environment, is the same after the
walk. -/
theorem handed_own (host : Host World) (adapter : Adapter World) (request : WalkRequest)
    (world : World) :
    let outcome := run host.sighted adapter.sighted request (world, [])
    EndAlike (fun whole world => whole.1 = world) outcome (run host adapter request world) ∧
      (∀ before context later, (ended outcome).2 = before ++ .handed context :: later →
        ∃ earlier path content environment,
          before = earlier ++ [.read path content environment] ∧
          OwnContext request path content (request.base.getD environment) context) ∧
      ∀ (α : Type) (part : World → α), host.Leaves part → adapter.Leaves part →
        part (ended (run host adapter request world)) = part world := by
  intro outcome
  refine ⟨?_, ?_, ?_⟩
  · exact run_alike host.sighted_alike adapter.sighted_alike request (world, []) world rfl
  · exact (kept_told host adapter request).run (told_nothing request)
  · intro α part left unmoved
    exact (kept_part left request (fun _ => unmoved) (part world)).run rfl

theorem orchard_handed :
    let request : WalkRequest := { root := "r", settings := { keyword := "go " } }
    let sights := (ended (run orchardHost.sighted orchardAdapter.sighted request ({}, []))).2
    ∃ before context later, sights = before ++ .handed context :: later ∧
      context.command = ("x" : Text) ∧ ∃ earlier path content environment,
      before = earlier ++ [.read path content environment] ∧
        OwnContext request path content environment context := by
  intro request sights
  obtain ⟨_, own, _⟩ := handed_own orchardHost orchardAdapter request {}
  have commands :
      (ended (run orchardHost.sighted orchardAdapter.sighted request ({}, []))).2.filterMap
        Sight.command? = [("x" : Text), "y"] := by
    cbv
  have first : ("x" : Text) ∈ sights.filterMap Sight.command? := by
    rw [commands]
    exact List.mem_cons_self
  obtain ⟨sight, member, told⟩ := List.mem_filterMap.1 first
  cases sight with
  | read path content environment => cases told
  | handed context =>
    obtain ⟨before, later, split⟩ := List.append_of_mem member
    exact ⟨before, context, later, split, Option.some.inj told, own before context later split⟩

end Walk

end GenWalk
