import FlowDefs.Proofs.Command.Scheduling
set_option autoImplicit false

namespace FlowDefs.Command

open Store Place

-- A relative path with a declaration file at its end.
def EndsDeclaration (relative : Relative) : Prop :=
  ∃ inner last, relative = inner ++ [last] ∧ isDeclarationName last = true

section Paths

variable (dest : Path) (format : Format)

theorem output_path_injective (first second : Relative) (declares : EndsDeclaration first)
    (declares' : EndsDeclaration second)
    (same : (outputPath dest first format.extension).names =
      (outputPath dest second format.extension).names) :
    Path.spoken first = Path.spoken second := by
  obtain ⟨inner, last, rfl, declaration⟩ := declares
  obtain ⟨inner', last', rfl, declaration'⟩ := declares'
  rw [output_names dest format inner last declaration,
    output_names dest format inner' last' declaration', List.append_assoc, List.append_assoc] at same
  obtain ⟨above, names⟩ := List.append_inj' (List.append_cancel_left same) rfl
  have stems := extension_cancel _ _ format (List.singleton_inj.mp names)
  have files : last = last' := by
    rw [← declaration_stem last declaration, stems, declaration_stem last' declaration']
  rw [Path.spoken_append, Path.spoken_append, above, files]

theorem output_no_declaration (relative : Relative) :
    ∃ name, (outputPath dest relative format.extension).fileName? = some name ∧
      isDeclarationName name = false := by
  obtain ⟨before, ends⟩ := output_ends dest format relative
  exact ⟨_, Path.ends_file_name _ before _ ends, extension_no_declaration _ format⟩

end Paths

section Runs

variable (plan : Plan)

theorem declaration_files_kept (store : Store) (run : List Job) (q : Place) (name : String)
    (last : q.getLast? = some name) (declaration : isDeclarationName name = true) :
    (plan.convertAll store run).1.text? q = store.text? q := by
  apply Classical.byContradiction
  intro changed
  obtain ⟨job, -, leads⟩ := convert_all_texts plan store run q changed
  obtain ⟨written, found, other⟩ := output_no_declaration plan.dest plan.format job.relative
  rw [leads, Plan.output, Path.file_place store.home _ written found] at last
  rw [Option.some.inj last, declaration] at other
  cases other

theorem convert_all_grows (store : Store) (standing : store.Standing) (run : List Job) :
    (plan.convertAll store run).1.Standing ∧ Grows store (plan.convertAll store run).1 := by
  induction run generalizing store with
  | nil => exact ⟨standing, rfl, fun _ => id⟩
  | cons job run ih =>
      have touches := convert_one_touches plan store standing job
      obtain ⟨standing', grows⟩ := ih _ touches.standing
      exact ⟨standing', grows.home.trans touches.grows.home,
        fun q directory => grows.directories q (touches.grows.directories q directory)⟩

variable (store : Store) (sound : store.Sound) (source : Path)

include sound

theorem run_read (job : Job) (member : job ∈ jobs store source) (run : List Job) :
    (plan.convertAll store run).1.read job.input = store.read job.input := by
  obtain ⟨place, text, resolves, held, unwritten⟩ := job_unwritten plan store sound source job member
  obtain ⟨standing, grows⟩ := convert_all_grows plan store sound.toStanding run
  have kept : (plan.convertAll store run).1.text? place = some text := by
    rw [← held]
    apply Classical.byContradiction
    intro changed
    obtain ⟨other, -, leads⟩ := convert_all_texts plan store run place changed
    exact unwritten other leads
  have resolves' := resolve_kept store _ standing grows job.input place resolves
  rw [read_of_found _ _ place text resolves' kept, read_of_found _ _ place text resolves held]

-- Whatever the store holds by then, only the job itself writes its output.
theorem run_keeps_output (job : Job) (member : job ∈ jobs store source) (later : List Job)
    (others : ∀ other ∈ later, other ∈ jobs store source ∧ other ≠ job) (reached : Store) :
    let place := (plan.output job).place reached.home
    (plan.convertAll reached later).1.text? place = reached.text? place := by
  apply Classical.byContradiction
  intro changed
  obtain ⟨other, inside, leads⟩ := convert_all_texts plan reached later _ changed
  obtain ⟨there, different⟩ := others other inside
  exact different (jobs_single plan store sound source other job there member _ leads.symm)

-- Neither another output nor a declaration file is where an output goes, be the destination the
-- source itself. Paths differ where their names do, whatever empty pieces and dots they have.
theorem outputs_never_collide :
    (∀ first second : Relative, EndsDeclaration first → EndsDeclaration second →
      Path.spoken first ≠ Path.spoken second →
        (outputPath plan.dest first plan.format.extension).names ≠
          (outputPath plan.dest second plan.format.extension).names) ∧
    (∀ first second : Relative, EndsDeclaration first → EndsDeclaration second →
      (∀ name ∈ first ++ second, IsName name) → first ≠ second →
        (outputPath plan.dest first plan.format.extension).names ≠
          (outputPath plan.dest second plan.format.extension).names) ∧
    (∀ relative : Relative, ∃ name,
      (outputPath plan.dest relative plan.format.extension).fileName? = some name ∧
        isDeclarationName name = false) ∧
    (∀ (reached : Store) (run : List Job) (q : Place) (name : String), q.getLast? = some name →
      isDeclarationName name = true → (plan.convertAll reached run).1.text? q = reached.text? q) ∧
    ∀ job ∈ jobs store source,
      (∀ run, (plan.convertAll store run).1.read job.input = store.read job.input) ∧
      ∀ later : List Job, (∀ other ∈ later, other ∈ jobs store source ∧ other ≠ job) →
        ∀ reached : Store, let place := (plan.output job).place reached.home
          (plan.convertAll reached later).1.text? place = reached.text? place := by
  have injective := output_path_injective plan.dest plan.format
  refine ⟨?_, ?_, output_no_declaration plan.dest plan.format, declaration_files_kept plan, ?_⟩
  · intro first second declares declares' different same
    exact different (injective first second declares declares' same)
  · intro first second declares declares' named different same
    have spoken := injective first second declares declares' same
    rw [Path.spoken_names first fun name member => named name (List.mem_append_left _ member),
      Path.spoken_names second fun name member => named name (List.mem_append_right _ member)]
      at spoken
    exact different spoken
  · intro job member
    exact ⟨run_read plan store sound source job member,
      run_keeps_output plan store sound source job member⟩

end Runs

-- Files converted beside their inputs: a repeated suffix is stripped once, both inputs stay as they
-- are, and the later file leaves the output of the earlier one.
theorem nested_converted_in_place :
    let plan := treePlan nestedEnvironment .unset ⟨["."]⟩ .flow
    (outputPath ⟨["."]⟩ ["a.d.ts.d.ts"] "js.flow").names ≠
        (outputPath ⟨["."]⟩ ["a.d.ts"] "js.flow").names ∧
      (∀ job ∈ jobs nestedEnvironment.store ⟨["."]⟩,
        (plan.convertAll nestedEnvironment.store (jobs nestedEnvironment.store ⟨["."]⟩)).1.read
          job.input = nestedEnvironment.store.read job.input) ∧
      ∀ reached : Store, reached.home = [] →
        (plan.convertAll reached
          [⟨⟨[".", "src", "a", "index.d.ts"]⟩, ["src", "a", "index.d.ts"]⟩]).1.text?
            ["lone.js.flow"] = reached.text? ["lone.js.flow"] := by
  intro plan
  obtain ⟨-, apart, -, -, runs⟩ :=
    outputs_never_collide plan nestedEnvironment.store nested_sound ⟨["."]⟩
  refine ⟨?_, fun job member => (runs job member).1 _, fun reached home => ?_⟩
  · exact apart ["a.d.ts.d.ts"] ["a.d.ts"] ⟨[], "a.d.ts.d.ts", rfl, by decide⟩
      ⟨[], "a.d.ts", rfl, by decide⟩ (by decide) (by decide)
  · have kept := (runs ⟨⟨[".", "lone.d.ts"]⟩, ["lone.d.ts"]⟩ (by simp [nested_jobs])).2
      [⟨⟨[".", "src", "a", "index.d.ts"]⟩, ["src", "a", "index.d.ts"]⟩] (by simp [nested_jobs])
      reached
    rw [home] at kept
    exact kept

end FlowDefs.Command
