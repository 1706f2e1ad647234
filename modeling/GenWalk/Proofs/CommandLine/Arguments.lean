import GenWalk.CommandLine.Arguments

/-!
Reading the arguments of a command in parts. Options before the name of a command are read as they
are without it (`Arguments.read_before_name`); among the arguments of a command without valued
options, one more option adds its wish and changes nothing else (`Arguments.read_insert`).
-/

namespace GenWalk.CommandLine.Arguments

variable {forms : List OptionForm} {before early late : List Text}

theorem map_ok {change : Arguments → Arguments} {reading : Except Misuse Arguments}
    {changed : Arguments} (reads : reading.map change = .ok changed) :
    ∃ first, reading = .ok first ∧ changed = change first := by
  cases reading with
  | error misuse => cases reads
  | ok first => exact ⟨first, rfl, (Except.ok.inj reads).symm⟩

theorem read_before_name {shared : Arguments} (name : Text) (plain : isOption name = false)
    (other : name ≠ [dash, dash]) (reads : read forms false before = .ok shared)
    (all : shared.operands = []) (own : List Text) :
    read forms false (before ++ name :: own) = .ok { shared with operands := name :: own } := by
  fun_induction read forms false before generalizing shared with
  | case1 =>
    cases reads
    simp [read, other, plain]
  | case2 rest =>
    cases reads
    obtain rfl : rest = [] := all
    simp [read]
  | case3 | case5 => cases reads
  | case4 argument rest distinct option wishes parted ih =>
    obtain ⟨first, begun, rfl⟩ := map_ok reads
    rw [List.cons_append, read, if_neg distinct, if_pos option, parted]
    simp only [ih begun all]
    rfl
  | case6 argument distinct option wishes long wish parted value rest ih =>
    obtain ⟨first, begun, rfl⟩ := map_ok reads
    rw [List.cons_append, read, if_neg distinct, if_pos option, parted]
    simp only [List.cons_append, ih begun all]
    rfl
  | case7 _ _ _ _ mixed => cases mixed
  | case8 =>
    cases reads
    cases all

theorem cluster_pending (valueless : ∀ form ∈ forms, form.takesValue = false) {letters : Text}
    {said : Part} (parted : cluster forms letters = .ok said) : said.pending? = none := by
  induction letters generalizing said with
  | nil =>
    cases parted
    rfl
  | cons letter rest ih =>
    simp only [cluster] at parted
    cases found : OptionForm.ofShort? forms letter with
    | none =>
      rw [found] at parted
      cases parted
    | some form =>
      rw [found] at parted
      simp only [valueless form (List.mem_of_find?_eq_some found), bind, Except.bind] at parted
      cases others : cluster forms rest with
      | error misuse =>
        rw [others] at parted
        cases parted
      | ok later =>
        rw [others] at parted
        cases parted
        exact (ih others : later.pending? = none)

theorem part_pending (valueless : ∀ form ∈ forms, form.takesValue = false) {argument : Text}
    {said : Part} (parted : part forms argument = .ok said) : said.pending? = none := by
  simp only [part] at parted
  split at parted
  next form found _ =>
    rw [valueless form (List.mem_of_find?_eq_some found)] at parted
    cases parted
    rfl
  next form _ _ found _ =>
    rw [valueless form (List.mem_of_find?_eq_some found)] at parted
    cases parted
  next =>
    split at parted
    next => cases parted
    next => exact cluster_pending valueless parted

/-- The arguments with one wish more somewhere among the others. -/
structure OneMore (wish : Wish) (plain own : Arguments) : Prop where
  operands : own.operands = plain.operands
  wishes : ∃ before behind, plain.wishes = before ++ behind ∧
    own.wishes = before ++ (wish, none) :: behind

namespace OneMore

variable {wish : Wish} {plain own : Arguments}

theorem addWishes (more : OneMore wish plain own) (wishes : List (Wish × Option Text)) :
    OneMore wish (plain.addWishes wishes) (own.addWishes wishes) where
  operands := more.operands
  wishes := by
    obtain ⟨before, behind, without, inside⟩ := more.wishes
    exact ⟨wishes ++ before, behind, by simp [Arguments.addWishes, without],
      by simp [Arguments.addWishes, inside]⟩

theorem addOperand (more : OneMore wish plain own) (operand : Text) :
    OneMore wish (plain.addOperand operand) (own.addOperand operand) where
  operands := congrArg (operand :: ·) more.operands
  wishes := more.wishes

theorem has_self (more : OneMore wish plain own) : own.has wish = true := by
  obtain ⟨before, behind, _, inside⟩ := more.wishes
  simp [has, inside]

theorem has_of_ne (more : OneMore wish plain own) {other : Wish} (different : wish ≠ other) :
    own.has other = plain.has other := by
  obtain ⟨before, behind, without, inside⟩ := more.wishes
  simp [has, without, inside, different]

theorem find? (more : OneMore wish plain own) (wanted : Wish × Option Text → Bool)
    (unwanted : wanted (wish, none) = false) :
    own.wishes.find? wanted = plain.wishes.find? wanted := by
  obtain ⟨before, behind, without, inside⟩ := more.wishes
  rw [without, inside, List.find?_append, List.find?_append,
    List.find?_cons_of_neg (by simp [unwanted])]

end OneMore

/-- An option more, before those arguments that are none any more whatever they look like, is a wish
more. -/
theorem read_insert (valueless : ∀ form ∈ forms, form.takesValue = false) {flag : Text}
    {wish : Wish} (option : isOption flag = true) (other : flag ≠ [dash, dash])
    (spelled : part forms flag = .ok { wishes := [(wish, none)] }) (unended : [dash, dash] ∉ early)
    {plain : Arguments} (reads : read forms true (early ++ late) = .ok plain) :
    ∃ own, read forms true (early ++ flag :: late) = .ok own ∧ OneMore wish plain own := by
  induction early generalizing plain with
  | nil =>
    refine ⟨plain.addWishes [(wish, none)], ?_, rfl, [], plain.wishes, rfl, rfl⟩
    rw [List.nil_append] at reads ⊢
    rw [read, if_neg other, if_pos option, spelled]
    simp only [reads]
    rfl
  | cons argument rest ih =>
    rw [List.mem_cons, not_or] at unended
    rw [List.cons_append, read, if_neg (Ne.symm unended.1)] at reads ⊢
    by_cases isOne : isOption argument = true
    · rw [if_pos isOne] at reads ⊢
      cases parted : part forms argument with
      | error misuse =>
        rw [parted] at reads
        cases reads
      | ok said =>
        obtain ⟨wishes, pending⟩ := said
        obtain rfl : pending = none := part_pending valueless parted
        rw [parted] at reads
        obtain ⟨first, begun, rfl⟩ := map_ok reads
        obtain ⟨own, read, more⟩ := ih unended.2 begun
        simp only [read]
        exact ⟨_, rfl, more.addWishes wishes⟩
    · rw [if_neg isOne] at reads ⊢
      obtain ⟨first, begun, rfl⟩ := map_ok reads
      obtain ⟨own, read, more⟩ := ih unended.2 begun
      simp only [read]
      exact ⟨_, rfl, more.addOperand argument⟩

end GenWalk.CommandLine.Arguments
