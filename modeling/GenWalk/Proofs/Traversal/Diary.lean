import GenWalk.Proofs.Traversal.Alike
import GenWalk.Proofs.Traversal.Course

/-!
A diary of a traversal: the worlds in which questions were asked and the paths that were visited, the
newest first. Keeping it changes nothing (`forgotten_keepingDiary`), and it shows a course
(`Itinerary.play_kept`), whatever the questions and the visits do to the world.
-/

namespace GenWalk

/-- What a traversal has come by. -/
structure Diary (World : Type) where
  asked : List World := []
  visited : List Path := []

variable {World Gathered α : Type}

def Query.kept (query : Query World α) : Query (World × Diary World) α :=
  fun (world, diary) => match query world with
    | .ok value after => .ok value (after, { diary with asked := world :: diary.asked })
    | .error fault after => .error fault (after, { diary with asked := world :: diary.asked })

def Host.kept (host : Host World) : Host (World × Diary World) :=
  { host.through Prod.fst fun world whole => (world, whole.2) with
    kind path := (host.kind path).kept
    target path := (host.target path).kept
    names path := (host.names path).kept }

namespace Traversal

def keptVisit (visit : Path → Journey World Gathered Unit) (path : Path) :
    Journey (World × Diary World) Gathered Unit :=
  fun ((world, diary), gathered) =>
    let noted := { diary with visited := path :: diary.visited }
    match visit path (world, gathered) with
    | .ok value (after, gathered) => .ok value ((after, noted), gathered)
    | .error interruption (after, gathered) => .error interruption ((after, noted), gathered)

def keepingDiary (host : Host World) (prefixes : List Text)
    (visit : Path → Journey World Gathered Unit) (root : Path) (start : World × Gathered) :
    EStateM.Result Interruption ((World × Diary World) × Gathered) Unit :=
  run host.kept prefixes (keptVisit visit) root ((start.1, {}), start.2)

end Traversal

def Diary.atEnd (outcome : EStateM.Result Interruption ((World × Diary World) × Gathered) α) :
    Diary World :=
  (Journey.atEnd outcome).1.2

def Diary.forgotten : EStateM.Result Interruption ((World × Diary World) × Gathered) α →
    EStateM.Result Interruption (World × Gathered) α
  | .ok value ((world, _), gathered) => .ok value (world, gathered)
  | .error interruption ((world, _), gathered) => .error interruption (world, gathered)

section Keeping

variable (host : Host World) (visit : Path → Journey World Gathered Unit)

theorem Host.kept_answer (question : Question) :
    host.kept.answer question = (host.answer question).kept := by
  cases question with
  | kind path => rfl
  | names directory => rfl
  | isDirectory path =>
    funext (world, diary)
    simp only [Host.answer, Host.isDirectory, Host.leadsTo, Host.kept, Query.kept]
    grind

theorem Query.kept_alike (query : Query World α) :
    Alike (fun (whole : World × Diary World) world => whole.1 = world) query.kept query := by
  rintro ⟨world, diary⟩ _ rfl
  simp only [Query.kept]
  cases query world with
  | ok value after => exact ⟨rfl, rfl⟩
  | error fault after => exact ⟨rfl, rfl⟩

theorem Host.kept_alike : host.kept.Alike (fun whole world => whole.1 = world) host where
  kind path := (host.kind path).kept_alike
  target path := (host.target path).kept_alike
  names path := (host.names path).kept_alike
  content path := (host.content path).through_alike
  environment := by
    rintro ⟨world, diary⟩ _ rfl
    rfl
  note := by
    rintro record ⟨world, diary⟩ _ rfl
    rfl

theorem Traversal.keptVisit_alike (path : Path) :
    Alike (Together (fun (whole : World × Diary World) world => whole.1 = world) Eq)
      (keptVisit visit path) (visit path) := by
  rintro ⟨⟨world, diary⟩, gathered⟩ ⟨_, _⟩ ⟨rfl, rfl⟩
  simp only [keptVisit]
  cases visit path (world, gathered) with
  | ok value after => exact ⟨rfl, rfl, rfl⟩
  | error interruption after => exact ⟨rfl, rfl, rfl⟩

theorem Traversal.forgotten_keepingDiary (prefixes : List Text) (root : Path)
    (start : World × Gathered) :
    Diary.forgotten (keepingDiary host prefixes visit root start) =
      run host prefixes visit root start := by
  have alike := host.kept_alike.play (keptVisit_alike visit) (Itinerary.ofRoot prefixes root)
    ((start.1, {}), start.2) start ⟨rfl, rfl⟩
  rw [keepingDiary, Itinerary.run_eq_play, Itinerary.run_eq_play]
  rcases alike.elim with ⟨value, ⟨⟨world, diary⟩, gathered⟩, ⟨_, _⟩, ran, ran', near⟩ |
    ⟨fault, ⟨⟨world, diary⟩, gathered⟩, ⟨_, _⟩, ran, ran', near⟩
  · obtain ⟨rfl, rfl⟩ := near
    rw [ran, ran']
    rfl
  · obtain ⟨rfl, rfl⟩ := near
    rw [ran, ran']
    rfl

variable {host visit}

theorem Host.kept_answered {question : Question} {world after : World} {answer : question.Answer}
    (diary : Diary World) (answered : host.answer question world = .ok answer after) :
    host.kept.answer question (world, diary) =
      .ok answer (after, { diary with asked := world :: diary.asked }) := by
  rw [host.kept_answer]
  simp only [Query.kept, answered]

theorem Host.kept_refused {question : Question} {world after : World} {fault : Fault}
    (diary : Diary World) (refused : host.answer question world = .error fault after) :
    host.kept.answer question (world, diary) =
      .error fault (after, { diary with asked := world :: diary.asked }) := by
  rw [host.kept_answer]
  simp only [Query.kept, refused]

theorem Traversal.keptVisit_ok {path : Path} {world : World} {gathered : Gathered}
    {state : World × Gathered} (diary : Diary World)
    (visited : visit path (world, gathered) = .ok () state) :
    keptVisit visit path ((world, diary), gathered) =
      .ok () ((state.1, { diary with visited := path :: diary.visited }), state.2) := by
  simp only [keptVisit, visited]

theorem Traversal.keptVisit_error {path : Path} {world : World} {gathered : Gathered}
    {interruption : Interruption} {state : World × Gathered} (diary : Diary World)
    (stopped : visit path (world, gathered) = .error interruption state) :
    keptVisit visit path ((world, diary), gathered) =
      .error interruption
        ((state.1, { diary with visited := path :: diary.visited }), state.2) := by
  simp only [keptVisit, stopped]

variable (host visit)

/-- The diary of an itinerary shows a course in which every answer was given in a world of the
diary. -/
theorem Itinerary.play_kept (itinerary : Itinerary) (world : World) (diary : Diary World)
    (gathered : Gathered) :
    let outcome := itinerary.play host.kept (Traversal.keptVisit visit) ((world, diary), gathered)
    ∃ moments files,
      Diary.atEnd outcome =
        { asked := moments ++ diary.asked, visited := files.reverse ++ diary.visited } ∧
      Course (fun view => ∃ moment ∈ moments, host.snapshot moment = view) itinerary files
        (Journey.interruption? outcome) := by
  induction itinerary generalizing world diary gathered with
  | done => exact ⟨[], [], rfl, .done⟩
  | giveUp fault => exact ⟨[], [], rfl, .giveUp⟩
  | ask question next ih =>
    have asked := host.answer_snapshot world question
    cases answered : host.answer question world with
    | ok answer after =>
      simp only [Query.answer, answered] at asked
      rw [play_answered _ _ gathered (Host.kept_answered diary answered)]
      obtain ⟨moments, files, atEnd, course⟩ := ih answer after _ gathered
      refine ⟨moments ++ [world], files, by rw [atEnd]; simp, .ask ⟨world, by simp, rfl⟩ asked ?_⟩
      refine course.mono ?_
      rintro view ⟨moment, member, same⟩
      exact ⟨moment, List.mem_append_left _ member, same⟩
    | error fault after =>
      simp only [Query.answer, answered] at asked
      rw [play_refused _ _ gathered (Host.kept_refused diary answered)]
      exact ⟨[world], [], rfl, .refused ⟨world, by simp, rfl⟩ asked⟩
  | note message next ih =>
    obtain ⟨moments, files, atEnd, course⟩ := ih (host.note _ world) diary gathered
    exact ⟨moments, files, atEnd, .note course⟩
  | visit path next ih =>
    cases visited : visit path (world, gathered) with
    | ok value state =>
      rw [play_visited _ _ (Traversal.keptVisit_ok diary visited)]
      obtain ⟨moments, files, atEnd, course⟩ := ih state.1 _ state.2
      exact ⟨moments, path :: files, by rw [atEnd]; simp, .visit course⟩
    | error interruption state =>
      rw [play_stopped _ _ (Traversal.keptVisit_error diary visited)]
      exact ⟨[], [path], rfl, .stopped⟩

end Keeping

namespace Traversal

theorem play_collect (host : Host World) (itinerary : Itinerary) (world : World)
    (diary : Diary World) :
    let outcome := itinerary.play host.kept (keptVisit collect) ((world, diary), diary.visited)
    (Journey.atEnd outcome).2 = (Diary.atEnd outcome).visited := by
  induction itinerary generalizing world diary with
  | done => rfl
  | giveUp fault => rfl
  | ask question next ih =>
    cases answered : host.answer question world with
    | ok answer after =>
      rw [Itinerary.play_answered _ _ _ (Host.kept_answered diary answered)]
      exact ih answer after { diary with asked := world :: diary.asked }
    | error fault after =>
      rw [Itinerary.play_refused _ _ _ (Host.kept_refused diary answered)]
      rfl
  | note message next ih => exact ih (host.note _ world) diary
  | visit path next ih => exact ih world { diary with visited := path :: diary.visited }

theorem files_eq_visited (host : Host World) (prefixes : List Text) (root : Path) (world : World) :
    (files host prefixes root world).1.1 =
      (Diary.atEnd (keepingDiary host prefixes collect root (world, []))).visited.reverse := by
  have gathered := play_collect host (Itinerary.ofRoot prefixes root) world {}
  have same := forgotten_keepingDiary host collect prefixes root (world, [])
  simp only [keepingDiary, Itinerary.run_eq_play] at same ⊢
  rw [← gathered, files, Itinerary.run_eq_play, ← same]
  cases (Itinerary.ofRoot prefixes root).play host.kept (keptVisit collect) ((world, {}), []) with
  | ok value state => rfl
  | error interruption state => rfl

end Traversal

end GenWalk
