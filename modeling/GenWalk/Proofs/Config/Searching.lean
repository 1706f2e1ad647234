import GenWalk.Config.Search
import GenWalk.Proofs.Traversal.Snapshot

/-!
The search for a configuration in a tree that stands still. It goes through a list of directories
that is known once the start is resolved, and its answer is that of the nearest of them in which the
test for the file does not just fail (`Config.find_constant`).
-/

namespace GenWalk

variable {World : Type} {α β : Type}

theorem Query.constant_pure (value : α) (worlds : World → Prop) :
    Query.Constant (pure value : Query World α) (.ok value) worlds :=
  fun world inside => ⟨world, inside, rfl⟩

theorem Query.Constant.bind {worlds : World → Prop} {query : Query World α} {told : Except Fault α}
    {next : α → Query World β} {later : α → Except Fault β} (first : query.Constant told worlds)
    (second : ∀ value, told = .ok value → (next value).Constant (later value) worlds) :
    Query.Constant (query >>= next) (told.bind later) worlds := by
  intro world inside
  obtain ⟨after, stays, asked⟩ := first world inside
  cases told with
  | error fault =>
    refine ⟨after, stays, ?_⟩
    simp only [Bind.bind, EStateM.bind, asked, Except.bind]
  | ok value =>
    obtain ⟨last, remains, answered⟩ := second value rfl after stays
    refine ⟨last, remains, ?_⟩
    simp only [Bind.bind, EStateM.bind, asked, Except.bind]
    exact answered

/-- In the worlds of a set the tree answers the questions of a search in one way. -/
structure Host.StillForSearch (host : Host World) (real : Path → Except Fault Path)
    (target : Path → Except Fault EntryKind) (worlds : World → Prop) : Prop where
  resolve : ∀ path, (host.resolve path).Constant (real path) worlds
  target : ∀ path, (host.target path).Constant (target path) worlds

namespace Config

def ancestry : (directories : Nat) → (directory : Path) → List Path
  | 0, _ => []
  | directories + 1, directory =>
    directory :: if directory.parts.isEmpty then [] else ancestry directories directory.parent

def toldIn (target : Path → Except Fault EntryKind) (directory : Path) : Except Fault Bool :=
  toldOf .file (target (directory.child fileName))

/-- The nearest configuration file in the directories, unless a nearer one cannot be looked for. -/
def nearest (target : Path → Except Fault EntryKind) : List Path → Except Fault (Option Path)
  | [] => .ok none
  | directory :: rest => (toldIn target directory).bind fun isFile =>
    if isFile then .ok (some (directory.child fileName)) else nearest target rest

theorem nearest_cases (target : Path → Except Fault EntryKind) (directories : List Path) :
    (nearest target directories = .ok none ∧
        ∀ directory ∈ directories, toldIn target directory = .ok false) ∨
      ∃ before directory behind, directories = before ++ directory :: behind ∧
        (∀ nearer ∈ before, toldIn target nearer = .ok false) ∧
        ((toldIn target directory = .ok true ∧
            nearest target directories = .ok (some (directory.child fileName))) ∨
          ∃ fault, toldIn target directory = .error fault ∧
            nearest target directories = .error fault) := by
  induction directories with
  | nil => exact Or.inl ⟨rfl, nofun⟩
  | cons directory rest ih =>
    simp only [nearest]
    cases told : toldIn target directory with
    | error fault => exact Or.inr ⟨[], directory, rest, rfl, nofun, Or.inr ⟨fault, told, rfl⟩⟩
    | ok isFile =>
      cases isFile with
      | true => exact Or.inr ⟨[], directory, rest, rfl, nofun, Or.inl ⟨told, rfl⟩⟩
      | false =>
        simp only [Except.bind, Bool.false_eq_true, if_false]
        rcases ih with ⟨nothing, without⟩ | ⟨before, other, behind, rfl, without, settled⟩
        · exact Or.inl ⟨nothing, List.forall_mem_cons.2 ⟨told, without⟩⟩
        · exact Or.inr ⟨directory :: before, other, behind, rfl,
            List.forall_mem_cons.2 ⟨told, without⟩, settled⟩

variable {host : Host World} {real : Path → Except Fault Path}
  {target : Path → Except Fault EntryKind} {worlds : World → Prop}

theorem searchUp_constant (still : host.StillForSearch real target worlds) (directories : Nat)
    (directory : Path) :
    (searchUp host directories directory).Constant
      (nearest target (ancestry directories directory)) worlds := by
  induction directories generalizing directory with
  | zero => exact Query.constant_pure none worlds
  | succ directories ih =>
    unfold searchUp ancestry nearest
    refine Query.Constant.bind ((still.target _).leadsTo .file) fun isFile _ => ?_
    cases isFile with
    | true => exact Query.constant_pure _ worlds
    | false =>
      simp only [Bool.false_eq_true, if_false]
      split
      next => exact Query.constant_pure none worlds
      next => exact ih directory.parent

theorem find_constant (still : host.StillForSearch real target worlds) (start : Path) :
    (find host start).Constant
      ((real start).bind fun resolved => nearest target (ancestry searchLimit resolved)) worlds :=
  (still.resolve start).bind fun resolved _ => searchUp_constant still searchLimit resolved

end Config

end GenWalk
