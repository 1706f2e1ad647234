import GenWalk.Proofs.Template.Reference
import GenWalk.Proofs.Traversal.Spoiling
import GenWalk.Proofs.Walk.Handing

/-!
What a walk takes over from its base environment under the names of its own variables. Three of them
are set before a command is expanded, so that no value inherited under these names is ever seen. The
fourth is set behind the expansion, and a command that refers to it is expanded with the inherited
value (`Walk.echo_swayed`); apart from such commands nothing inherited has an influence, which is the
main statement `Walk.heedless_of_inherited`.
-/

namespace GenWalk

/-- Both environments have the same value, or none, for every name but the listed ones. -/
def Environment.AgreeBut (names : List Text) (environment environment' : Environment) : Prop :=
  ∀ name ∉ names, environment.get? name = environment'.get? name

def Directive.variableNames : List Text :=
  [commandVariable, fileVariable, directoryVariable, expandedVariable]

structure Context.Same (context context' : Context) : Prop where
  directive : context.directive = context'.directive
  environment : ∀ name, context.environment.get? name = context'.environment.get? name

/-- The same is seen, whatever environment the program has at this moment. -/
inductive Sight.Same : Sight → Sight → Prop where
  | read (path : Path) (content : Bytes) (environment environment' : Environment) :
      Same (.read path content environment) (.read path content environment')
  | handed {context context' : Context} (same : context.Same context') :
      Same (.handed context) (.handed context')

variable {World : Type}

structure Host.AnswersAlike (worlds : World → World → Prop) (host : Host World) : Prop where
  kind : ∀ path, GenWalk.Alike worlds (host.kind path) (host.kind path)
  target : ∀ path, GenWalk.Alike worlds (host.target path) (host.target path)
  names : ∀ path, GenWalk.Alike worlds (host.names path) (host.names path)
  content : ∀ path, GenWalk.Alike worlds (host.content path) (host.content path)
  note : ∀ record world world', worlds world world' →
    worlds (host.note record world) (host.note record world')

/-- The adapter goes by the context: the same ones get the same receipts in related worlds, which
stay related. -/
structure Adapter.GoesByContext (worlds : World → World → Prop) (adapter : Adapter World) :
    Prop where
  objection? : ∀ context context', context.Same context' →
    adapter.objection? context = adapter.objection? context'
  execute : ∀ context context' world world', context.Same context' → worlds world world' →
    (adapter.execute context world).1 = (adapter.execute context' world').1 ∧
      worlds (adapter.execute context world).2 (adapter.execute context' world').2

def WalkRequest.baseIn (request : WalkRequest) (host : Host World) (world : World) : Environment :=
  request.base.getD (host.environment world)

variable {worlds : World → World → Prop} {host : Host World} {adapter : Adapter World}

theorem Host.AnswersAlike.answer (alike : host.AnswersAlike worlds) (question : Question) :
    GenWalk.Alike worlds (host.answer question) (host.answer question) := by
  cases question with
  | kind path => exact alike.kind path
  | isDirectory path => exact .leadsTo .directory (alike.target path)
  | names directory => exact alike.names directory

theorem Host.AnswersAlike.sighted (alike : host.AnswersAlike worlds) :
    host.sighted.AnswersAlike (Together worlds (List.Forall₂ Sight.Same)) where
  kind path := (alike.kind path).through
  target path := (alike.target path).through
  names path := (alike.names path).through
  content path := by
    rintro ⟨world, sights⟩ ⟨world', sights'⟩ ⟨near, seen⟩
    simp only [Host.sighted]
    rcases (alike.content path world world' near).elim with
      ⟨content, after, after', read, read', later⟩ | ⟨fault, after, after', refused, refused', later⟩
    · rw [read, read']
      exact ⟨rfl, later, List.rel_append seen (.cons (.read path content _ _) .nil)⟩
    · rw [refused, refused']
      exact ⟨rfl, later, seen⟩
  note record whole whole' near := ⟨alike.note record whole.1 whole'.1 near.1, near.2⟩

theorem Adapter.GoesByContext.sighted (goes : adapter.GoesByContext worlds) :
    adapter.sighted.GoesByContext (Together worlds (List.Forall₂ Sight.Same)) where
  objection? := goes.objection?
  execute := by
    rintro context context' ⟨world, sights⟩ ⟨world', sights'⟩ same ⟨near, seen⟩
    obtain ⟨receipts, later⟩ := goes.execute context context' world world' same near
    simp only [Adapter.sighted, receipts]
    exact ⟨trivial, later, List.rel_append seen (.cons (.handed same) .nil)⟩

namespace Walk

variable {request : WalkRequest} {base' : Option Environment}

/-- Over bases that agree on all other names, the variables that are set before an expansion leave
one name on which the environments may differ. -/
theorem get?_layered {base base' : Environment}
    (agree : base.AgreeBut Directive.variableNames base') (directive : Directive) {name : Text}
    (other : name ≠ Directive.expandedVariable) :
    (layered base directive).get? name = (layered base' directive).get? name := by
  simp only [layered, Environment.get?_set]
  by_cases isDirectory : name = Directive.directoryVariable
  · rw [if_pos isDirectory, if_pos isDirectory]
  by_cases isFile : name = Directive.fileVariable
  · rw [if_neg isDirectory, if_neg isDirectory, if_pos isFile, if_pos isFile]
  by_cases isCommand : name = Directive.commandVariable
  · rw [if_neg isDirectory, if_neg isDirectory, if_neg isFile, if_neg isFile, if_pos isCommand,
      if_pos isCommand]
  rw [if_neg isDirectory, if_neg isDirectory, if_neg isFile, if_neg isFile, if_neg isCommand,
    if_neg isCommand]
  exact agree name (by simp [Directive.variableNames, isCommand, isFile, isDirectory, other])

theorem get?_layered_expanded (base : Environment) (directive : Directive) :
    (layered base directive).get? Directive.expandedVariable =
      base.get? Directive.expandedVariable := by
  have fromCommand : Directive.expandedVariable ≠ Directive.commandVariable := by decide
  have fromFile : Directive.expandedVariable ≠ Directive.fileVariable := by decide
  have fromDirectory : Directive.expandedVariable ≠ Directive.directoryVariable := by decide
  simp only [layered, Environment.get?_set, fromCommand, fromFile, fromDirectory, if_false]

theorem contextOf_same {base base' : Environment}
    (agree : base.AgreeBut Directive.variableNames base') {command : Text}
    (unswayed : Template.Refers command Directive.expandedVariable →
      (base.get? Directive.expandedVariable).getD [] =
        (base'.get? Directive.expandedVariable).getD []) (path root : Text) :
    (contextOf command path root base).Same (contextOf command path root base') := by
  let directive : Directive := { command, path, root }
  have expansion : Template.expand command (layered base directive) =
      Template.expand command (layered base' directive) := by
    apply Template.expand_congr
    intro name refers
    by_cases expanded : name = Directive.expandedVariable
    · subst expanded
      rw [get?_layered_expanded, get?_layered_expanded]
      exact unswayed refers
    · rw [get?_layered agree directive expanded]
  have told (base : Environment) : contextOf command path root base =
      { directive := { directive with expanded := Template.expand command (layered base directive) }
        environment := (layered base directive).set Directive.expandedVariable
          (Template.expand command (layered base directive)) } := rfl
  rw [told, told, expansion]
  refine ⟨rfl, fun name => ?_⟩
  rw [Environment.get?_set, Environment.get?_set]
  by_cases expanded : name = Directive.expandedVariable
  · rw [if_pos expanded, if_pos expanded]
  · rw [if_neg expanded, if_neg expanded, get?_layered agree directive expanded]

theorem receipt_alike_of_same (goes : adapter.GoesByContext worlds) (dryRun : Bool)
    {context context' : Context} (same : context.Same context') :
    Alike (Together worlds Eq) (receipt adapter dryRun context)
      (receipt adapter dryRun context') := by
  rintro ⟨world, books⟩ ⟨world', _⟩ ⟨near, rfl⟩
  obtain ⟨receipts, later⟩ := goes.execute context context' world world' same near
  simp only [receipt, goes.objection? context context' same, Context.failure, Context.skipped,
    Context.command, Context.path, same.directive]
  cases adapter.objection? context' with
  | some error => exact ⟨rfl, near, rfl⟩
  | none =>
    cases dryRun with
    | true => exact ⟨rfl, near, rfl⟩
    | false => exact ⟨receipts, later, rfl⟩

def ReadUnclear (clear : Text → Prop) (keyword : Text) (sights : List Sight) : Prop :=
  ∃ path content environment command, .read path content environment ∈ sights ∧
    FirstLine.read keyword content = .command command ∧ ¬clear command

variable {clear : Text → Prop} {keyword : Text} {seen : List Sight}

theorem ReadUnclear.append (unclear : ReadUnclear clear keyword seen) (more : List Sight) :
    ReadUnclear clear keyword (seen ++ more) := by
  obtain ⟨path, content, environment, command, member, rest⟩ := unclear
  exact ⟨path, content, environment, command, List.mem_append_left _ member, rest⟩

theorem kept_readUnclear (host : Host World) (adapter : Adapter World) (request : WalkRequest)
    (clear : Text → Prop) (keyword : Text) :
    Kept host.sighted adapter.sighted request fun whole => ReadUnclear clear keyword whole.2 :=
  kept_sights (fun _ _ _ _ _ unclear _ => unclear.append _)
    fun _ _ _ _ _ unclear _ _ => unclear.append _

theorem visit_alike_or_unclear (alike : host.AnswersAlike worlds)
    (goes : adapter.GoesByContext worlds)
    (contexts : ∀ command path world world', clear command → worlds world world' →
      (contextOf command path request.root (request.baseIn host world)).Same
        (contextOf command path request.root (base'.getD (host.environment world'))))
    (path : Path) :
    AlikeOrSpoilt (Together worlds (List.Forall₂ Sight.Same)) (Eq : Books → Books → Prop)
      (fun state => ReadUnclear clear request.settings.keyword state.1.2)
      (visit host.sighted adapter.sighted request path)
      (visit host.sighted adapter.sighted { request with base := base' } path) := by
  rintro ⟨whole, books⟩ ⟨whole', _⟩ ⟨near, rfl⟩
  rcases (alike.sighted.content path whole whole' near).elim with
    ⟨content, after, after', asked, asked', later⟩ | ⟨fault, after, after', asked, asked', later⟩
  · rw [visit_read asked, visit_read asked']
    cases told : FirstLine.read request.settings.keyword content with
    | unterminated => exact Or.inl ⟨rfl, later, rfl⟩
    | ordinary => exact Or.inl ⟨rfl, later, rfl⟩
    | command text =>
      cases text with
      | nil => exact Or.inl ⟨rfl, later, rfl⟩
      | cons glyph rest =>
        by_cases isClear : clear (glyph :: rest)
        · have same := contexts (glyph :: rest) path.toText after.1 after'.1 isClear later.1
          exact Or.inl (perform_alike alike.sighted.note rfl same.directive
            (receipt_alike_of_same goes.sighted request.dryRun same) (after, books) (after', books)
            ⟨later, rfl⟩)
        · have kept := kept_readUnclear host adapter request clear request.settings.keyword
          have unclear : ReadUnclear clear request.settings.keyword after.2 := by
            rw [Host.sighted_content asked]
            exact ⟨path, content, _, glyph :: rest,
              List.mem_append_right _ (List.mem_singleton_self _), told, isClear⟩
          exact Or.inr (kept.perform unclear (fun _ => unclear.append _) books)
  · rw [visit_refused asked, visit_refused asked']
    exact Or.inl ⟨rfl, later, rfl⟩

def sights (host : Host World) (adapter : Adapter World) (request : WalkRequest) (world : World) :
    List Sight :=
  (ended (run host.sighted adapter.sighted request (world, []))).2

def Answered (host : Host World) (sights : List Sight) : Prop :=
  ∀ path content environment, .read path content environment ∈ sights →
    ∃ before after, host.content path before = .ok content after

theorem kept_answered (host : Host World) (adapter : Adapter World) (request : WalkRequest) :
    Kept host.sighted adapter.sighted request fun whole => Answered host whole.2 := by
  apply kept_sights
  · intro sights path before content after start asked path' content' environment' member
    rcases List.mem_append.1 member with earlier | last
    · exact start path' content' environment' earlier
    · cases List.mem_singleton.1 last
      exact ⟨before, after, asked⟩
  · intro sights path content environment command start _ _ path' content' environment' member
    rcases List.mem_append.1 member with earlier | last
    · exact start path' content' environment' earlier
    · cases List.mem_singleton.1 last

theorem answered_sights (host : Host World) (adapter : Adapter World) (request : WalkRequest)
    (world : World) : Answered host (sights host adapter request world) :=
  (kept_answered host adapter request).run fun _ _ _ member => absurd member List.not_mem_nil

theorem readUnclear_sights {world : World}
    (unclear : ReadUnclear clear keyword (Journey.atEnd (Traversal.run host.sighted
      request.settings.skipPrefixes (visit host.sighted adapter.sighted request)
      (Path.ofText request.root) ((world, []), {}))).1.2) :
    ReadUnclear clear keyword (sights host adapter request world) := by
  obtain ⟨_, last⟩ := run_concluded (Eq.refl (Traversal.run host.sighted
    request.settings.skipPrefixes (visit host.sighted adapter.sighted request)
    (Path.ofText request.root) ((world, []), {})))
  unfold sights
  rcases last with same | ⟨record, same⟩
  · rw [same]
    exact unclear
  · rw [same]
    exact unclear

/-- If the command refers to the variable of the expanded command at all, the bases of related worlds
give this variable the same value. -/
def Unswayed (worlds : World → World → Prop) (host : Host World) (request : WalkRequest)
    (base' : Option Environment) (command : Text) : Prop :=
  Template.Refers command Directive.expandedVariable → ∀ world world', worlds world world' →
    ((request.baseIn host world).get? Directive.expandedVariable).getD [] =
      ((base'.getD (host.environment world')).get? Directive.expandedVariable).getD []

/-- Walks over bases that agree but for the names of the walk's own variables have the same result
and hand over the same contexts, as long as no file that the first of them reads has a command that
sees the inherited value of the expanded command. -/
theorem heedless_of_inherited (alike : host.AnswersAlike worlds)
    (goes : adapter.GoesByContext worlds) (request : WalkRequest) (base' : Option Environment)
    (agree : ∀ world world', worlds world world' →
      (request.baseIn host world).AgreeBut Directive.variableNames
        (base'.getD (host.environment world')))
    {world world' : World} (near : worlds world world')
    (unswayed : ∀ path content environment command,
      .read path content environment ∈ sights host adapter request world →
      FirstLine.read request.settings.keyword content = .command command →
      Unswayed worlds host request base' command) :
    EndAlike worlds (run host adapter request world)
        (run host adapter { request with base := base' } world') ∧
      List.Forall₂ Sight.Same (sights host adapter request world)
        (sights host adapter { request with base := base' } world') := by
  have contexts (command path : Text) (world world' : World)
      (clear : Unswayed worlds host request base' command) (near : worlds world world') :=
    contextOf_same (agree world world' near) (fun refers => clear refers world world' near) path
      request.root
  have kept := kept_readUnclear host adapter request (Unswayed worlds host request base')
    request.settings.keyword
  have traversed := Traversal.run_alike_or_spoilt alike.sighted.answer alike.sighted.note kept.keeps
    (fun path => Journey.Keeps.iff_atEnd.2 fun state start => kept.visit path start state.2)
    (visit_alike_or_unclear alike goes contexts) request.settings.skipPrefixes
    (Path.ofText request.root) ((world, []), {}) ((world', []), {}) ⟨⟨near, .nil⟩, rfl⟩
  rcases traversed with together | unclear
  · have walked : EndAlike (Together worlds (List.Forall₂ Sight.Same))
        (run host.sighted adapter.sighted request (world, []))
        (run host.sighted adapter.sighted { request with base := base' } (world', [])) := by
      apply run_alike_of_traversal alike.sighted.note
      · rfl
      · rfl
      · exact together
    have first := run_alike host.sighted_alike adapter.sighted_alike request (world, []) world rfl
    have second := run_alike host.sighted_alike adapter.sighted_alike
      { request with base := base' } (world', []) world' rfl
    refine ⟨walked.of_whole first second, ?_⟩
    unfold sights
    rcases walked.elim with ⟨_, _, _, ran, ran', later⟩ | ⟨_, _, _, ran, ran', later⟩
    · rw [ran, ran']
      exact later.2
    · rw [ran, ran']
      exact later.2
  · obtain ⟨path, content, environment, command, read, told, notClear⟩ := readUnclear_sights unclear
    exact absurd (unswayed path content environment command read told) notClear

structure Mock.Same (mock mock' : Mock) : Prop where
  name : mock.name = mock'.name
  output : mock.output = mock'.output
  failures : mock.failures = mock'.failures
  calls : List.Forall₂ Context.Same mock.calls mock'.calls

theorem orchardAdapter_goesByContext : orchardAdapter.GoesByContext Mock.Same where
  objection? context context' same := by
    have command : context.command = context'.command :=
      congrArg Directive.expanded same.directive
    show context.objection? = context'.objection?
    rw [Context.objection?, Context.objection?, Context.arguments, Context.arguments, command]
  execute context context' mock mock' same near := by
    have command : context.command = context'.command :=
      congrArg Directive.expanded same.directive
    have path : context.path = context'.path := congrArg Directive.path same.directive
    have receipts : mock.receipt context = mock'.receipt context' := by
      simp only [Mock.receipt, Mock.failure?, Context.failure, Context.success, command, path,
        near.name, near.output, near.failures]
    exact ⟨receipts, near.name, near.output, near.failures,
      List.rel_append near.calls (.cons same .nil)⟩

def echoView (line : Text) : Snapshot where
  kind _ := .ok .file
  target _ := .ok .file
  names directory := .error (.system .notDirectory (some directory.toText))
  content _ := .ok (Utf8.encode line)

def echoHost (line : Text) : Host Mock := Host.ofSnapshots fun _ => echoView line

theorem echoHost_answersAlike (line : Text) : (echoHost line).AnswersAlike Mock.Same where
  kind path := Query.ofAnswer_alike (Eq.refl ((echoView line).kind path))
  target path := Query.ofAnswer_alike (Eq.refl ((echoView line).target path))
  names path := Query.ofAnswer_alike (Eq.refl ((echoView line).names path))
  content path := Query.ofAnswer_alike (Eq.refl ((echoView line).content path))
  note _ _ _ near := near

def echoInherited : Environment := .ofList [(Directive.commandVariable, "old"),
  (Directive.fileVariable, "old"), (Directive.expandedVariable, "old"), ("K", "v")]

def echoBare : Environment := .ofList [("K", "v")]

theorem echo_agree : echoBare.AgreeBut Directive.variableNames echoInherited := by
  intro name other
  simp only [Directive.variableNames, List.mem_cons, List.not_mem_nil, or_false, not_or] at other
  obtain ⟨notCommand, notFile, _, notExpanded⟩ := other
  simp only [echoBare, echoInherited, Environment.ofList, Environment.setAll, List.foldl,
    Environment.get?_set, notCommand, notFile, notExpanded, if_false]

def echoRequest (base : Environment) : WalkRequest := { root := "r", base := some base }

theorem echo_content {line : Text} {path : Path} {content : Bytes} {mock after : Mock}
    (read : (echoHost line).content path mock = .ok content after) : content = Utf8.encode line := by
  cases read
  rfl

theorem echo_expanded {line command : Text} (filled : command ≠ [])
    (told : FirstLine.read defaultKeyword (Utf8.encode line) = .command command) (base : Environment) :
    ((run (echoHost line) orchardAdapter (echoRequest base)).answer {}).map
        (fun result => result.books.directives.map Directive.expanded) =
      .ok [(contextOf command "r" "r" base).command] := by
  have root : (Path.ofText "r").toText = ("r" : Text) := by decide
  have visited : visit (echoHost line) orchardAdapter (echoRequest base) (Path.ofText "r") ({}, {}) =
      perform (echoHost line) orchardAdapter (echoRequest base) (contextOf command "r" "r" base)
        ({}, {}) := by
    obtain ⟨glyph, rest, rfl⟩ := List.exists_cons_of_ne_nil filled
    have usual : FirstLine.read (echoRequest base).settings.keyword (Utf8.encode line) =
      .command (glyph :: rest) := told
    rw [visit_read (Eq.refl ((echoHost line).content (Path.ofText "r") {})), root]
    simp only [usual, FirstLine.command?]
    rfl
  obtain ⟨answered, _⟩ := run_concluded (Eq.refl (Traversal.run (echoHost line)
    (echoRequest base).settings.skipPrefixes
    (visit (echoHost line) orchardAdapter (echoRequest base))
    (Path.ofText (echoRequest base).root) ({}, {})))
  have traversed : Traversal.run (echoHost line) (echoRequest base).settings.skipPrefixes
      (visit (echoHost line) orchardAdapter (echoRequest base))
      (Path.ofText (echoRequest base).root) ({}, {}) =
        visit (echoHost line) orchardAdapter (echoRequest base) (Path.ofText "r") ({}, {}) := rfl
  rw [traversed, visited, perform_eq (Eq.refl (receiptIn orchardAdapter (echoRequest base).dryRun
    (contextOf command "r" "r" base) _))] at answered
  rw [answered]
  split
  next => rfl
  next => rfl

theorem echo_heedless :
    let host := echoHost "#helm:generate $HELM_GENERATE_FILE:$K\n"
    host.AnswersAlike Mock.Same ∧ orchardAdapter.GoesByContext Mock.Same ∧
      echoBare.AgreeBut Directive.variableNames echoInherited ∧
      ((run host orchardAdapter (echoRequest echoBare)).answer {}).map
          (fun result => result.books.directives.map Directive.expanded) = .ok [("r:v" : Text)] ∧
      EndAlike Mock.Same (run host orchardAdapter (echoRequest echoBare) {})
        (run host orchardAdapter (echoRequest echoInherited) {}) ∧
      List.Forall₂ Sight.Same (sights host orchardAdapter (echoRequest echoBare) {})
        (sights host orchardAdapter (echoRequest echoInherited) {}) := by
  intro host
  have near : Mock.Same {} {} := ⟨rfl, rfl, rfl, .nil⟩
  have line : FirstLine.read defaultKeyword
      (Utf8.encode "#helm:generate $HELM_GENERATE_FILE:$K\n") =
        .command "$HELM_GENERATE_FILE:$K" := by
    decide
  have heedless : ¬Template.Refers "$HELM_GENERATE_FILE:$K" Directive.expandedVariable := by decide
  have walked := heedless_of_inherited (echoHost_answersAlike _) orchardAdapter_goesByContext
    (echoRequest echoBare) (some echoInherited) (fun _ _ _ => echo_agree) near
    fun path content environment command member told refers => by
      obtain ⟨before, after, read⟩ := answered_sights _ _ _ _ path content environment member
      obtain rfl := echo_content read
      obtain rfl := FirstLine.command.inj (told.symm.trans line)
      exact absurd refers heedless
  have expanded : (contextOf "$HELM_GENERATE_FILE:$K" "r" "r" echoBare).command = "r:v" := by
    decide +kernel
  refine ⟨echoHost_answersAlike _, orchardAdapter_goesByContext, echo_agree, ?_, walked⟩
  rw [← expanded]
  exact echo_expanded (by decide) line echoBare

/-- A command that refers to the variable of the expanded command is expanded with the value that
was inherited. -/
theorem echo_swayed :
    let host := echoHost "#helm:generate e[$HELM_GENERATE_COMMAND_EXPANDED]\n"
    host.AnswersAlike Mock.Same ∧ orchardAdapter.GoesByContext Mock.Same ∧
      echoBare.AgreeBut Directive.variableNames echoInherited ∧
      ((run host orchardAdapter (echoRequest echoBare)).answer {}).map
          (fun result => result.books.directives.map Directive.expanded) = .ok [("e[]" : Text)] ∧
      ((run host orchardAdapter (echoRequest echoInherited)).answer {}).map
          (fun result => result.books.directives.map Directive.expanded) =
        .ok [("e[old]" : Text)] := by
  intro host
  have line : FirstLine.read defaultKeyword
      (Utf8.encode "#helm:generate e[$HELM_GENERATE_COMMAND_EXPANDED]\n") =
        .command "e[$HELM_GENERATE_COMMAND_EXPANDED]" := by
    decide
  have bare : (contextOf "e[$HELM_GENERATE_COMMAND_EXPANDED]" "r" "r" echoBare).command =
      "e[]" := by
    decide +kernel
  have inherited : (contextOf "e[$HELM_GENERATE_COMMAND_EXPANDED]" "r" "r" echoInherited).command =
      "e[old]" := by
    decide +kernel
  refine ⟨echoHost_answersAlike _, orchardAdapter_goesByContext, echo_agree, ?_, ?_⟩
  · rw [← bare]
    exact echo_expanded (by decide) line echoBare
  · rw [← inherited]
    exact echo_expanded (by decide) line echoInherited

end Walk

end GenWalk
