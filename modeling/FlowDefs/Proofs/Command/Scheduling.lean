import FlowDefs.Proofs.Command.Independence
import Mathlib.Data.List.Perm.Basic
set_option autoImplicit false

namespace FlowDefs.Command

open Store Place

variable (plan : Plan)

section Trees

variable (store : Store) (sound : store.Sound) (source : Path)

include sound

theorem job_unwritten (job : Job) (member : job ∈ jobs store source) :
    ∃ place text, store.resolve job.input = .ok place ∧ store.text? place = some text ∧
      ∀ other, place ≠ (plan.output other).place store.home := by
  obtain ⟨root, reads⟩ := job_reads store source job member
  have resolves := input_resolves store source sound root job reads
  obtain ⟨text, held⟩ := Option.isSome_iff_exists.mp reads.file
  refine ⟨_, text, resolves, held, fun other leads => ?_⟩
  have declaration := reads.declaration
  unfold Job.isDeclaration at declaration
  cases found : job.input.fileName? with
  | none => simp [found] at declaration
  | some name =>
      obtain ⟨before, ends⟩ := output_ends plan.dest plan.format other.relative
      have here := Path.file_place store.home job.input name found
      rw [← resolve_leads store _ _ resolves, leads, Plan.output,
        Path.file_place store.home _ _ (Path.ends_file_name _ before _ ends)] at here
      rw [found, ← Option.some.inj here] at declaration
      simp [extension_no_declaration] at declaration

end Trees

section Mirrored

variable (source : Path) (job : Job) (inner : List String) (base : String)
  (mirrors : Mirrors source plan.dest plan.format job inner base)

include mirrors

theorem output_parent_names : (plan.output job).parent.names = plan.dest.names ++ inner := by
  obtain ⟨before, ends⟩ := output_ends plan.dest plan.format job.relative
  rw [Path.file_parent_names (plan.output job) _ (Path.ends_file_name _ before _ ends)]
  exact (congrArg List.dropLast mirrors.output).trans List.dropLast_concat

-- What an output asks for leads to the destination, and from there along the input's directories.
theorem way_to_output (home : Place) : wayTo home (plan.output job) =
    trail (plan.dest.start home) plan.dest.names ++ trail (plan.dest.place home) inner := by
  obtain ⟨before, ends⟩ := output_ends plan.dest plan.format job.relative
  have found := Path.ends_file_name (plan.output job) before _ ends
  have start : (plan.output job).parent.start home = plan.dest.start home := by
    rw [Path.start, Path.start, Path.file_parent_absolute _ _ found]
    exact congrArg (fun absolute => if absolute then [] else home) mirrors.absolute
  rw [wayTo, start, output_parent_names plan source job inner base mirrors, trail_append]
  rfl

end Mirrored

-- The names of an output below its destination.
def mirrored (relative : Relative) (format : Format) : List String :=
  relative.dropLast ++ [stem (relative.getLastD "") ++ "." ++ format.extension]

-- No output takes the place of a directory that another output needs and that is not there yet.
def Plan.Free (plan : Plan) (store : Store) (run : List Job) : Prop :=
  ∀ job ∈ run, ∀ other ∈ run,
    mirrored job.relative plan.format <+: other.relative.dropLast →
      let place := plan.dest.place store.home ++ mirrored job.relative plan.format
      store.isFile place = true ∨ store.isDirectory place = true

section Trees

variable (store : Store) (sound : store.Sound) (source : Path)

include sound

-- A source that is a file has one job; the jobs of a directory mirror their inputs.
theorem jobs_mirror_or_same (job other : Job) (here : job ∈ jobs store source)
    (there : other ∈ jobs store source) :
    job = other ∨ ∃ inner base inner' base',
      Mirrors source plan.dest plan.format job inner base ∧
      Mirrors source plan.dest plan.format other inner' base' := by
  obtain ⟨place, reads⟩ := job_reads store source job here
  obtain ⟨place', reads'⟩ := job_reads store source other there
  have same : place' = place := Except.ok.inj (reads'.leads.symm.trans reads.leads)
  subst same
  have empty := relative_empty_iff store source sound place' job reads
  have empty' := relative_empty_iff store source sound place' other reads'
  by_cases file : store.isFile place' = true
  · exact .inl (reads_unique store source place' job other reads reads'
      ((empty.mpr file).trans (empty'.mpr file).symm))
  · obtain ⟨inner, base, mirrors⟩ := job_mirrors store source plan.dest plan.format sound place' job
      reads (mt empty.mp file)
    obtain ⟨inner', base', mirrors'⟩ := job_mirrors store source plan.dest plan.format sound place'
      other reads' (mt empty'.mp file)
    exact .inr ⟨inner, base, inner', base', mirrors, mirrors'⟩

theorem jobs_single (job other : Job) (here : job ∈ jobs store source)
    (there : other ∈ jobs store source) (home : Place)
    (same : (plan.output job).place home = (plan.output other).place home) : job = other := by
  rcases jobs_mirror_or_same plan store sound source job other here there with
    equal | ⟨inner, base, inner', base', mirrors, mirrors'⟩
  · exact equal
  · rw [Plan.output, Plan.output, mirrored_place home source _ _ job inner base mirrors,
      mirrored_place home source _ _ other inner' base' mirrors', List.append_assoc,
      List.append_assoc] at same
    obtain ⟨rfl, last⟩ := List.append_inj' (List.append_cancel_left same) rfl
    have bases := extension_cancel base base' plan.format (List.singleton_inj.mp last)
    subst bases
    obtain ⟨place, reads⟩ := job_reads store source job here
    obtain ⟨place', reads'⟩ := job_reads store source other there
    cases reads.leads.symm.trans reads'.leads
    exact reads_unique store source place job other reads reads'
      (mirrors.relative.trans mirrors'.relative.symm)

theorem jobs_clear (free : plan.Free store (jobs store source)) (job other : Job)
    (here : job ∈ jobs store source) (there : other ∈ jobs store source) (q : Place)
    (leads : q = (plan.output job).place store.home)
    (inside : q ∈ wayTo store.home (plan.output other)) :
    q ∈ wayTo store.home (plan.output job) ∨ store.isFile q = true ∨
      store.isDirectory q = true := by
  rcases jobs_mirror_or_same plan store sound source job other here there with
    same | ⟨inner, base, inner', base', mirrors, mirrors'⟩
  · exact .inl (same ▸ inside)
  · rw [way_to_output plan source other inner' base' mirrors', List.mem_append] at inside
    rw [way_to_output plan source job inner base mirrors, List.mem_append]
    rcases inside with way | below
    · exact .inl (.inl way)
    · have whole := leads.trans
        (mirrored_place store.home source plan.dest plan.format job inner base mirrors)
      obtain ⟨way, front, whole'⟩ := mem_trail_names _ q inner' mirrors'.named below
      have names : mirrored job.relative plan.format =
          inner ++ [base ++ "." ++ plan.format.extension] := by
        simp [mirrored, mirrors.relative, stem_declaration]
      have between : mirrored job.relative plan.format <+: other.relative.dropLast := by
        rw [whole, List.append_assoc] at whole'
        rw [names, List.append_cancel_left whole', mirrors'.relative, List.dropLast_concat]
        exact front
      have taken := free job here other there between
      rw [names, ← List.append_assoc, ← whole] at taken
      exact .inr taken

theorem jobs_independent (free : plan.Free store (jobs store source)) :
    plan.Independent store (jobs store source) := by
  constructor
  · exact sound.toStanding
  · intro job member
    obtain ⟨place, text, resolves, held, unwritten⟩ :=
      job_unwritten plan store sound source job member
    exact ⟨place, text, resolves, held, fun other _ => unwritten other⟩
  · exact fun job here other there =>
      jobs_single plan store sound source job other here there store.home
  · exact fun job here other there => jobs_clear plan store sound source free job other here there

end Trees

-- What is seen of a tree: texts, counts, failures in any order, and how it ends.
structure SameOutcome (first second : Outcome) : Prop where
  texts : ∀ q, first.store.text? q = second.store.text? q
  output : first.output = second.output
  messages : first.messages.Perm second.messages
  problem : first.problem = second.problem

instance : RightCommutative Summary.add where
  right_comm a b c := by simp [Summary.add, Nat.add_right_comm]

theorem total_message_perm (summaries summaries' : List Summary)
    (order : summaries.Perm summaries') : totalMessage summaries = totalMessage summaries' := by
  have total : Summary.total summaries = Summary.total summaries' := order.foldl_eq _
  delta totalMessage
  rw [total, order.length_eq]

theorem tree_outcome_perm (first second : Store) (texts : ∀ q, first.text? q = second.text? q)
    (results results' : List (Job × Except Problem Summary)) (order : results.Perm results') :
    SameOutcome (treeOutcome first results) (treeOutcome second results') := by
  have failures := order.filterMap failure?
  constructor
  · exact texts
  · exact total_message_perm _ _ (order.filterMap fun r => r.2.toOption)
  · exact failures
  · change (if _ then none else some (Problem.failures _)) = if _ then none else _
    rw [failures.length_eq, failures.isEmpty_eq]

def Plan.outcome (plan : Plan) (store : Store) (run : List Job) : Outcome :=
  treeOutcome (plan.convertAll store run).1 (plan.convertAll store run).2

def treePlan (env : Environment) (settings : Settings) (dest : Path) (format : Format) : Plan :=
  ⟨dest, format, fun name text => convertFile settings.catalog name (env.parse text)⟩

theorem run_tree_outcome (env : Environment) (settings : Settings) (source dest : Path)
    (format : Option String) (chosen : Format) (picked : settings.outputFormat format = .ok chosen)
    (filled : jobs env.store source ≠ []) :
    runTree env settings source dest format =
      (treePlan env settings dest chosen).outcome env.store (jobs env.store source) := by
  have inputs : (jobs env.store source).isEmpty = false := by simpa using filled
  rw [runTree, picked]
  simp only [inputs]
  rfl

theorem independent_perm (store : Store) (first second : List Job) (order : first.Perm second)
    (independent : plan.Independent store first) :
    (plan.convertAll store first).2.Perm (plan.convertAll store second).2 ∧
      SameOutcome (plan.outcome store first) (plan.outcome store second) := by
  have independent' := independent_members plan store first second independent
    fun job member => order.mem_iff.mpr member
  have results : (plan.convertAll store first).2.Perm (plan.convertAll store second).2 := by
    rw [run_results plan store first independent, run_results plan store second independent']
    exact order.map _
  refine ⟨results, tree_outcome_perm _ _ (fun q => ?_) _ _ results⟩
  by_cases written : ∃ job ∈ first, q = (plan.output job).place store.home
  · obtain ⟨job, member, rfl⟩ := written
    exact (run_texts plan store first independent job member).trans
      (run_texts plan store second independent' job (order.mem_iff.mp member)).symm
  · have kept (run : List Job) (same : ∀ job ∈ run, job ∈ first) :
        (plan.convertAll store run).1.text? q = store.text? q := by
      apply Classical.byContradiction
      intro changed
      obtain ⟨job, member, leads⟩ := convert_all_texts plan store run q changed
      exact written ⟨job, same job member, leads⟩
    rw [kept first fun _ => id, kept second fun job member => order.mem_iff.mpr member]

-- A tree does not depend on the order of its conversions, except where one needs a directory in
-- the place of another one's output.
theorem tree_ignores_schedule (env : Environment) (settings : Settings) (source dest : Path)
    (format : Option String) (chosen : Format) (picked : settings.outputFormat format = .ok chosen)
    (sound : env.store.Sound)
    (free : (treePlan env settings dest chosen).Free env.store (jobs env.store source))
    (first second : List Job) (order : first.Perm (jobs env.store source))
    (order' : second.Perm (jobs env.store source)) :
    let plan := treePlan env settings dest chosen
    (plan.convertAll env.store first).2.Perm (plan.convertAll env.store second).2 ∧
      SameOutcome (plan.outcome env.store first) (plan.outcome env.store second) ∧
      (first ≠ [] →
        SameOutcome (plan.outcome env.store first) (runTree env settings source dest format)) := by
  intro plan
  have independent := jobs_independent plan env.store sound source free
  have ordered : plan.Independent env.store first :=
    independent_members plan env.store _ first independent fun job member => order.mem_iff.mp member
  obtain ⟨results, outcomes⟩ :=
    independent_perm plan env.store first second (order.trans order'.symm) ordered
  refine ⟨results, outcomes, fun nonempty => ?_⟩
  have filled : jobs env.store source ≠ [] := fun none =>
    nonempty (List.perm_nil.mp (none ▸ order))
  rw [run_tree_outcome env settings source dest format chosen picked filled]
  exact (independent_perm plan env.store first _ order ordered).2

theorem nested_jobs : jobs nestedEnvironment.store ⟨["."]⟩ =
    [⟨⟨[".", "lone.d.ts"]⟩, ["lone.d.ts"]⟩,
      ⟨⟨[".", "src", "a", "index.d.ts"]⟩, ["src", "a", "index.d.ts"]⟩] := by
  have below : nestedEnvironment.store.filesBelow [] =
      [["lone.d.ts"], ["src", "a", "index.d.ts"]] :=
    List.mergeSort_of_pairwise (by decide +kernel)
  rw [jobs_found nestedEnvironment.store ⟨["."]⟩ [] rfl, below]
  decide +kernel

theorem nested_schedules_agree :
    SameOutcome ((treePlan nestedEnvironment .unset ⟨["out"]⟩ .flow).outcome
        nestedEnvironment.store (jobs nestedEnvironment.store ⟨["."]⟩).reverse)
      (runTree nestedEnvironment .unset ⟨["."]⟩ ⟨["out"]⟩ none) := by
  have apart : ∀ job ∈ jobs nestedEnvironment.store ⟨["."]⟩,
      ∀ other ∈ jobs nestedEnvironment.store ⟨["."]⟩,
        ¬ mirrored job.relative .flow <+: other.relative.dropLast := by
    rw [nested_jobs]
    decide
  have filled : (jobs nestedEnvironment.store ⟨["."]⟩).reverse ≠ [] := by
    rw [nested_jobs]
    nofun
  exact (tree_ignores_schedule nestedEnvironment .unset ⟨["."]⟩ ⟨["out"]⟩ none .flow rfl nested_sound
    (fun job here other there between => absurd between (apart job here other there)) _ _
    (List.reverse_perm _) (List.Perm.refl _)).2.2 filled

-- The output of one file is the directory that the output of the other one needs.
def collidingEnvironment : Environment :=
  emptyPrograms [(["src", "a.d.ts"], ""), (["src", "a.js.flow", "b.d.ts"], "")]

theorem colliding_jobs : jobs collidingEnvironment.store ⟨["src"]⟩ =
    [⟨⟨["src", "a.d.ts"]⟩, ["a.d.ts"]⟩,
      ⟨⟨["src", "a.js.flow", "b.d.ts"]⟩, ["a.js.flow", "b.d.ts"]⟩] := by
  have below : collidingEnvironment.store.filesBelow ["src"] =
      [["a.d.ts"], ["a.js.flow", "b.d.ts"]] :=
    List.mergeSort_of_pairwise (by decide +kernel)
  rw [jobs_found collidingEnvironment.store ⟨["src"]⟩ ["src"] rfl, below]
  decide +kernel

theorem colliding_schedules_differ :
    ∃ first second : List Job, first.Perm (jobs collidingEnvironment.store ⟨["src"]⟩) ∧
      second.Perm (jobs collidingEnvironment.store ⟨["src"]⟩) ∧
      ((treePlan collidingEnvironment .unset ⟨["out"]⟩ .flow).outcome
          collidingEnvironment.store first).store.text? ["out", "a.js.flow"] ≠
        ((treePlan collidingEnvironment .unset ⟨["out"]⟩ .flow).outcome
          collidingEnvironment.store second).store.text? ["out", "a.js.flow"] := by
  refine ⟨_, _, List.Perm.refl _, List.reverse_perm _, ?_⟩
  rw [colliding_jobs]
  decide +kernel

end FlowDefs.Command
