import GenWalk.Proofs.Walk.Staged

/-!
Two walks over the same files, side by side. Whether a walk is dry and which adapter it has changes
nothing of what a file asks for, so the walks go on together until a generator fails in one of them
only (`Staged.abreast`).
-/

namespace GenWalk

namespace Deed

/-- The same comes of a file in two walks, but for what a receipt says besides that it is a failed
one or not. -/
inductive Agrees : Deed → Deed → Prop
  | passed : Agrees passed passed
  | unreadable (fault : Fault) : Agrees (unreadable fault) (unreadable fault)
  | unterminated : Agrees unterminated unterminated
  | generated (context : Context) {receipt receipt' : Receipt}
      (same : receipt.isFailed = receipt'.isFailed) :
      Agrees (generated context receipt) (generated context receipt')

/-- One generator is run in two walks and fails in one of them. -/
inductive Parts : Deed → Deed → Prop
  | generated (context : Context) {receipt receipt' : Receipt}
      (other : receipt.isFailed ≠ receipt'.isFailed) :
      Parts (generated context receipt) (generated context receipt')

variable {keyword : Text} {path : Path} {deed deed' : Deed}

theorem Agrees.directive? (agrees : deed.Agrees deed') : deed.directive? = deed'.directive? := by
  cases agrees <;> rfl

theorem Agrees.isFailed (agrees : deed.Agrees deed') :
    deed.receipt?.map Receipt.isFailed = deed'.receipt?.map Receipt.isFailed := by
  cases agrees with
  | generated context same => exact congrArg some same
  | passed | unreadable | unterminated => rfl

theorem Agrees.goesOn (agrees : deed.Agrees deed') (keyword : Text) (path : Path) :
    deed.failure? keyword path = none ↔ deed'.failure? keyword path = none := by
  cases agrees with
  | generated context same => simp only [failure?, same, ite_eq_right_iff, reduceCtorEq]
  | passed | unreadable | unterminated => rfl

end Deed

namespace Walk

variable {World : Type} {host : Host World} {adapter adapter' : Adapter World} {view : Snapshot}
  {worlds : World → Prop} {request : WalkRequest} {files : List Path}
  {ending error error' : Option Interruption} {steps steps' : List (Path × Deed)}

theorem Staged.ended (staged : Staged host adapter request view worlds [] ending steps error) :
    steps = [] ∧ error = ending := by
  have none : steps = [] := List.map_eq_nil_iff.1 (List.prefix_nil.1 staged.reached)
  rcases staged.stop with ⟨_, same, _⟩ | ⟨before, _, _, _, split, _⟩
  · exact ⟨none, same⟩
  · rw [none] at split
    cases before <;> cases split

theorem Staged.begun {path : Path}
    (staged : Staged host adapter request view worlds (path :: files) ending steps error) :
    ∃ deed later, steps = (path, deed) :: later ∧ Due host adapter request view worlds path deed ∧
      ((∃ interruption, deed.failure? request.settings.keyword path = some interruption ∧
          later = [] ∧ error = some interruption) ∨
        deed.failure? request.settings.keyword path = none ∧
          Staged host adapter request view worlds files ending later error) := by
  cases steps with
  | nil =>
    rcases staged.stop with ⟨whole, _⟩ | ⟨before, _, _, _, split, _⟩
    · cases whole
    · cases before <;> cases split
  | cons step later =>
    obtain ⟨place, deed⟩ := step
    obtain ⟨rfl, rest⟩ := List.cons_prefix_cons.1 staged.reached
    have dues := fun step member => staged.due step (List.mem_cons_of_mem _ member)
    refine ⟨deed, later, rfl, staged.due _ List.mem_cons_self, ?_⟩
    rcases staged.stop with ⟨whole, same, fine⟩ |
      ⟨before, last, final, interruption, split, fine, failed, same⟩
    · refine Or.inr ⟨fine _ List.mem_cons_self, rest, dues,
        Or.inl ⟨?_, same, fun step member => ?_⟩⟩
      · exact (List.cons.inj whole).2
      · exact fine step (List.mem_cons_of_mem _ member)
    · cases before with
      | nil =>
        cases split
        exact Or.inl ⟨interruption, failed, rfl, same⟩
      | cons first more =>
        obtain ⟨rfl, rfl⟩ := List.cons.inj split
        refine Or.inr ⟨fine _ List.mem_cons_self, rest, dues, Or.inr ?_⟩
        exact ⟨more, last, final, interruption, rfl,
          fun step member => fine step (List.mem_cons_of_mem _ member), failed, same⟩

theorem Staged.stopped {before later : List (Path × Deed)} {path : Path} {deed : Deed}
    {interruption : Interruption}
    (staged : Staged host adapter request view worlds files ending
      (before ++ (path, deed) :: later) error)
    (failed : deed.failure? request.settings.keyword path = some interruption) :
    later = [] ∧ error = some interruption := by
  induction before generalizing files with
  | nil =>
    cases files with
    | nil => cases staged.ended.1
    | cons first rest =>
      obtain ⟨other, more, split, _, ⟨_, fails, none, same⟩ | ⟨fine, _⟩⟩ := staged.begun
      · cases split
        rw [failed] at fails
        exact ⟨none, same.trans fails.symm⟩
      · cases split
        rw [failed] at fine
        cases fine
  | cons step more ih =>
    cases files with
    | nil => cases staged.ended.1
    | cons first rest =>
      obtain ⟨other, further, split, _, ⟨_, _, none, _⟩ | ⟨_, onward⟩⟩ := staged.begun
      · obtain ⟨_, rfl⟩ := List.cons.inj split
        cases more <;> cases none
      · obtain ⟨_, rfl⟩ := List.cons.inj split
        exact ih onward

theorem Staged.fine {before later : List (Path × Deed)} {step : Path × Deed}
    (staged : Staged host adapter request view worlds files ending (before ++ step :: later)
      error) :
    ∀ earlier ∈ before, earlier.2.failure? request.settings.keyword earlier.1 = none := by
  rintro ⟨path, deed⟩ member
  obtain ⟨front, back, rfl⟩ := List.append_of_mem member
  cases failed : deed.failure? request.settings.keyword path with
  | none => rfl
  | some interruption =>
    rw [List.append_assoc, List.cons_append] at staged
    cases back <;> cases (staged.stopped failed).1

def Settled (host : Host World) (request : WalkRequest) (worlds : World → Prop)
    (base : Environment) : Prop :=
  ∀ world, worlds world → request.base.getD (host.environment world) = base

def SameStep (step step' : Path × Deed) : Prop := step.1 = step'.1 ∧ step.2.Agrees step'.2

/-- How two walks over the same files compare. -/
inductive Abreast (keyword : Text) (steps steps' : List (Path × Deed))
    (error error' : Option Interruption) : Prop
  | together (pairs : List.Forall₂ SameStep steps steps')
      (ends : error = error' ∨ ∃ path context receipt receipt',
        (path, .generated context receipt) ∈ steps ∧ (path, .generated context receipt') ∈ steps' ∧
        error = (Deed.generated context receipt).failure? keyword path ∧
        error' = (Deed.generated context receipt').failure? keyword path)
  | parted (before before' later later' : List (Path × Deed)) (path : Path) (deed deed' : Deed)
      (split : steps = before ++ (path, deed) :: later)
      (split' : steps' = before' ++ (path, deed') :: later')
      (pairs : List.Forall₂ SameStep before before') (parts : deed.Parts deed')

theorem Abreast.cons {keyword : Text} {path : Path} {deed deed' : Deed} (agrees : deed.Agrees deed')
    (rest : Abreast keyword steps steps' error error') :
    Abreast keyword ((path, deed) :: steps) ((path, deed') :: steps') error error' := by
  cases rest with
  | together pairs ends =>
    refine .together (.cons ⟨rfl, agrees⟩ pairs) (ends.imp_right ?_)
    rintro ⟨place, context, receipt, receipt', member, member', same, same'⟩
    exact ⟨place, context, receipt, receipt', List.mem_cons_of_mem _ member,
      List.mem_cons_of_mem _ member', same, same'⟩
  | parted before before' later later' place other other' split split' pairs parts =>
    rw [split, split']
    exact .parted ((path, deed) :: before) ((path, deed') :: before') later later' place other
      other' rfl rfl (.cons ⟨rfl, agrees⟩ pairs) parts

theorem Abreast.stopped {keyword : Text} {path : Path} {deed deed' : Deed}
    (agrees : deed.Agrees deed') : Abreast keyword [(path, deed)] [(path, deed')]
      (deed.failure? keyword path) (deed'.failure? keyword path) := by
  refine .together (.cons ⟨rfl, agrees⟩ .nil) ?_
  cases agrees with
  | generated context same =>
    exact Or.inr ⟨path, context, _, _, List.mem_singleton_self _, List.mem_singleton_self _, rfl,
      rfl⟩
  | passed | unreadable | unterminated => exact Or.inl rfl

theorem exists_same_of_mem (pairs : List.Forall₂ SameStep steps steps') {step' : Path × Deed}
    (member : step' ∈ steps') : ∃ step ∈ steps, SameStep step step' := by
  induction pairs with
  | nil => cases member
  | @cons step other _ _ same _ ih =>
    rcases List.mem_cons.1 member with rfl | later
    · exact ⟨step, List.mem_cons_self, same⟩
    · obtain ⟨found, among, alike⟩ := ih later
      exact ⟨found, List.mem_cons_of_mem _ among, alike⟩

end Walk

end GenWalk
