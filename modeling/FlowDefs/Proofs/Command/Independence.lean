import FlowDefs.Proofs.Command.Saving
set_option autoImplicit false

namespace FlowDefs.Command

open Store Place

namespace Plan

-- The text that a job leaves at its output when nothing runs before it.
def alone (plan : Plan) (store : Store) (job : Job) : Option String :=
  (plan.convertOne store job).2.toOption.bind fun _ =>
    (store.read job.input).toOption.map fun text =>
      Format.write (plan.convert (Text.join "/" job.relative) text) plan.format

-- Jobs that cannot disturb each other. An output on the way to another output is there already, as
-- a file or as a directory, or is a directory on its own way.
structure Independent (plan : Plan) (store : Store) (run : List Job) : Prop where
  standing : store.Standing
  readable : ∀ job ∈ run, ∃ place text, store.resolve job.input = .ok place ∧
    store.text? place = some text ∧ ∀ other ∈ run, place ≠ (plan.output other).place store.home
  single : ∀ job ∈ run, ∀ other ∈ run,
    (plan.output job).place store.home = (plan.output other).place store.home → job = other
  clear : ∀ job ∈ run, ∀ other ∈ run, ∀ q, q = (plan.output job).place store.home →
    q ∈ wayTo store.home (plan.output other) →
      q ∈ wayTo store.home (plan.output job) ∨ store.isFile q = true ∨ store.isDirectory q = true

end Plan

variable (plan : Plan)

theorem independent_members (store : Store) (run later : List Job)
    (independent : plan.Independent store run) (inside : ∀ job ∈ later, job ∈ run) :
    plan.Independent store later := by
  constructor
  · exact independent.standing
  · intro job member
    obtain ⟨place, text, resolves, held, unwritten⟩ := independent.readable job (inside job member)
    exact ⟨place, text, resolves, held, fun other there => unwritten other (inside other there)⟩
  · exact fun job here other there => independent.single job (inside job here) other (inside other there)
  · exact fun job here other there => independent.clear job (inside job here) other (inside other there)

-- What a job leaves at its own output.
theorem convert_one_at (store : Store) (standing : store.Standing) (job : Job) :
    let q := (plan.output job).place store.home
    (plan.convertOne store job).1.text? q = (plan.alone store job).or (store.text? q) := by
  intro q
  cases reads : store.read job.input with
  | error e => rw [Plan.alone, convert_one_unread plan store job e reads]; rfl
  | ok text =>
      obtain ⟨before, ends⟩ := output_ends plan.dest plan.format job.relative
      rw [Plan.alone, convert_one_read plan store job text reads, reads]
      rcases save_cases store standing (plan.output job) before _ ends plan
        (plan.convert (Text.join "/" job.relative) text) with
        ⟨e, -, saved⟩ | ⟨made, ready, saved⟩
      · rw [saved]
        rfl
      · rw [saved]
        by_cases taken : made.isDirectory q = true
        · rw [if_pos taken, text?, ready.files]
          rfl
        · rw [if_neg taken, text_put, if_pos rfl]
          rfl

section Steps

variable (store : Store) (job : Job) (run : List Job)
  (independent : plan.Independent store (job :: run))

include independent

theorem step_files (other : Job) (member : other ∈ run) (q : Place)
    (inside : q ∈ wayTo store.home (plan.output other)) :
    (plan.convertOne store job).1.isFile q = store.isFile q := by
  have touches := convert_one_touches plan store independent.standing job
  apply Classical.byContradiction
  intro different
  have changed : (plan.convertOne store job).1.text? q ≠ store.text? q := fun same =>
    different (by rw [isFile, isFile, same])
  obtain ⟨leads, outside, free⟩ := touches.texts q changed
  rcases independent.clear job List.mem_cons_self other (List.mem_cons_of_mem job member) q leads
    inside with own | file | directory
  · exact outside own
  · exact different (by rw [file, touches.files q file])
  · rw [directory] at free
    cases free

theorem step_directory (other : Job) (member : other ∈ run) :
    let q := (plan.output other).place store.home
    q ∈ wayTo store.home (plan.output other) ∨
      (plan.convertOne store job).1.isDirectory q = store.isDirectory q := by
  intro q
  have touches := convert_one_touches plan store independent.standing job
  by_cases old : store.isDirectory q = true
  · exact .inr (by rw [old, touches.grows.directories q old])
  · by_cases new : (plan.convertOne store job).1.isDirectory q = true
    · obtain ⟨way, free⟩ := (touches.adds q new).resolve_left old
      rcases independent.clear other (List.mem_cons_of_mem job member) job List.mem_cons_self q
        rfl way with own | file | directory
      · exact .inl own
      · rw [file] at free
        cases free
      · exact absurd directory old
    · exact .inr (by rw [Bool.eq_false_iff.mpr new, Bool.eq_false_iff.mpr old])

theorem step_readable (other : Job) (member : other ∈ run) :
    ∃ place text, (plan.convertOne store job).1.resolve other.input = .ok place ∧
      (plan.convertOne store job).1.text? place = some text ∧
      store.resolve other.input = .ok place ∧ store.text? place = some text ∧
      ∀ later ∈ run, place ≠ (plan.output later).place store.home := by
  have touches := convert_one_touches plan store independent.standing job
  obtain ⟨place, text, resolves, held, unwritten⟩ :=
    independent.readable other (List.mem_cons_of_mem job member)
  refine ⟨place, text, ?_, ?_, resolves, held, fun later there =>
    unwritten later (List.mem_cons_of_mem job there)⟩
  · exact resolve_kept store _ touches.standing touches.grows other.input place resolves
  · rw [← held]
    apply Classical.byContradiction
    intro changed
    exact unwritten job List.mem_cons_self (touches.texts place changed).1

theorem step_read (other : Job) (member : other ∈ run) :
    (plan.convertOne store job).1.read other.input = store.read other.input := by
  obtain ⟨place, text, resolves, held, resolves', held', -⟩ :=
    step_readable plan store job run independent other member
  rw [read_of_found _ _ place text resolves held, read_of_found _ _ place text resolves' held']

theorem step_result (other : Job) (member : other ∈ run) :
    (plan.convertOne (plan.convertOne store job).1 other).2 = (plan.convertOne store other).2 := by
  have touches := convert_one_touches plan store independent.standing job
  have again := step_read plan store job run independent other member
  cases reads : store.read other.input with
  | error e =>
      rw [convert_one_unread plan _ other e (again.trans reads),
        convert_one_unread plan store other e reads]
  | ok text =>
      rw [convert_one_read plan _ other text (again.trans reads),
        convert_one_read plan store other text reads]
      have files := step_files plan store job run independent other member
      have directory := step_directory plan store job run independent other member
      exact (save_agree plan store independent.standing _ touches.standing touches.grows.home other _
        (fun q inside => (files q inside).symm) (directory.imp_right Eq.symm)).symm

theorem step_alone (other : Job) (member : other ∈ run) :
    plan.alone (plan.convertOne store job).1 other = plan.alone store other := by
  rw [Plan.alone, step_read plan store job run independent other member,
    step_result plan store job run independent other member, Plan.alone]

theorem step_independent : plan.Independent (plan.convertOne store job).1 run := by
  have touches := convert_one_touches plan store independent.standing job
  have rest := independent_members plan store _ run independent fun _ => List.mem_cons_of_mem job
  constructor
  · exact touches.standing
  · intro other member
    obtain ⟨place, text, resolves, held, -, -, unwritten⟩ :=
      step_readable plan store job run independent other member
    rw [touches.grows.home]
    exact ⟨place, text, resolves, held, unwritten⟩
  · rw [touches.grows.home]
    exact rest.single
  · rw [touches.grows.home]
    intro first here second there q leads inside
    rcases rest.clear first here second there q leads inside with own | file | directory
    · exact .inl own
    · exact .inr (.inl (touches.files q file))
    · exact .inr (.inr (touches.grows.directories q directory))

end Steps

-- Every job comes out as it does when it runs alone.
theorem run_results (store : Store) (run : List Job) (independent : plan.Independent store run) :
    (plan.convertAll store run).2 = run.map fun job => (job, (plan.convertOne store job).2) := by
  induction run generalizing store with
  | nil => rfl
  | cons job run ih =>
      rw [Plan.convertAll, List.map_cons, ih _ (step_independent plan store job run independent)]
      apply congrArg ((job, (plan.convertOne store job).2) :: ·)
      apply List.map_congr_left
      intro other member
      rw [step_result plan store job run independent other member]

theorem run_texts (store : Store) (run : List Job) (independent : plan.Independent store run)
    (job : Job) (member : job ∈ run) :
    let q := (plan.output job).place store.home
    (plan.convertAll store run).1.text? q = (plan.alone store job).or (store.text? q) := by
  intro q
  induction run generalizing store with
  | nil => cases member
  | cons first run ih =>
      have home := convert_one_home plan store first
      have own (same : first = job) :
          (plan.convertOne store first).1.text? q = (plan.alone store job).or (store.text? q) := by
        subst same
        exact convert_one_at plan store independent.standing first
      rw [Plan.convertAll]
      by_cases later : job ∈ run
      · have rest := ih _ (step_independent plan store first run independent) later
        rw [home, step_alone plan store first run independent job later] at rest
        change (plan.convertAll (plan.convertOne store first).1 run).1.text? q = _
        rw [rest]
        by_cases same : first = job
        · rw [own same, ← Option.or_assoc, Option.or_self]
        · congr 1
          apply Classical.byContradiction
          intro changed
          exact same (independent.single first List.mem_cons_self job member
            (convert_one_texts plan store first q changed).symm)
      · have same : first = job := ((List.mem_cons.mp member).resolve_right later).symm
        rw [← own same]
        apply Classical.byContradiction
        intro changed
        obtain ⟨other, there, again⟩ := convert_all_texts plan _ run q changed
        rw [home] at again
        exact later (independent.single job member other (List.mem_cons_of_mem first there)
          again ▸ there)

end FlowDefs.Command
