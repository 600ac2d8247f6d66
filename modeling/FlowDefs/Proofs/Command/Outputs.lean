import FlowDefs.Command.Convert
import FlowDefs.Proofs.Workspace.Sound
import FlowDefs.Proofs.Workspace.Writing
set_option autoImplicit false

namespace FlowDefs.Command

open Store Place

theorem declaration_stem (name : String) (declaration : isDeclarationName name = true) :
    stem name ++ ".d.ts" = name := by
  obtain ⟨before, whole⟩ := List.isSuffixOf_iff_suffix.mp declaration
  apply String.toList_injective
  rw [stem, if_pos declaration, String.toList_append, String.toList_ofList, ← whole]
  simp [declarationSuffix]

theorem suffix_declaration (base : String) : isDeclarationName (base ++ ".d.ts") = true :=
  List.isSuffixOf_iff_suffix.mpr ⟨base.toList, by rw [String.toList_append]; rfl⟩

theorem stem_declaration (base : String) : stem (base ++ ".d.ts") = base := by
  have same := congrArg String.toList (declaration_stem _ (suffix_declaration base))
  rw [String.toList_append, String.toList_append] at same
  exact String.toList_injective (List.append_cancel_right same)

theorem declaration_named (name : String) (declaration : isDeclarationName name = true) :
    IsName name := by
  have long : 5 ≤ name.toList.length := (List.isSuffixOf_iff_suffix.mp declaration).length_le
  have apart (text : String) (short : text.toList.length < 5) : name ≠ text := by
    rintro rfl
    omega
  refine ⟨?_, apart ".." (by decide)⟩
  simp [isSilent, apart "" (by decide), apart "." (by decide)]

theorem extension_named (base : String) (format : Format) :
    IsName (base ++ "." ++ format.extension) := by
  have extra : 3 < format.extension.length := by cases format <;> decide
  have long (text : String) (short : text.length ≤ 3) :
      base ++ "." ++ format.extension ≠ text := by
    rintro rfl
    rw [String.length_append] at short
    omega
  refine ⟨?_, long ".." (by decide)⟩
  simp [isSilent, long "" (by decide), long "." (by decide)]

theorem extension_cancel (base base' : String) (format : Format)
    (same : base ++ "." ++ format.extension = base' ++ "." ++ format.extension) : base = base' := by
  have texts := congrArg String.toList same
  rw [String.toList_append, String.toList_append, String.toList_append,
    String.toList_append] at texts
  exact String.toList_injective (List.append_cancel_right (List.append_cancel_right texts))

theorem extension_no_declaration (base : String) (format : Format) :
    isDeclarationName (base ++ "." ++ format.extension) = false := by
  rw [Bool.eq_false_iff]
  intro declaration
  obtain ⟨before, whole⟩ := List.isSuffixOf_iff_suffix.mp declaration
  have last := congrArg List.getLast? whole
  rw [String.toList_append] at last
  cases format <;> simp [declarationSuffix, Format.extension] at last

section Jobs

variable (store : Store) (source : Path)

theorem jobs_found (place : Place) (leads : store.resolve source = .ok place) :
    jobs store source =
      ((store.filesBelow place).map (Job.ofRelative source)).filter Job.isDeclaration := by
  rw [jobs, leads]

theorem mem_jobs (job : Job) :
    job ∈ jobs store source ↔ ∃ place, store.resolve source = .ok place ∧
      (∃ relative ∈ store.filesBelow place, Job.ofRelative source relative = job) ∧
      job.isDeclaration = true := by
  cases leads : store.resolve source with
  | error e => simp [jobs, leads]
  | ok place => simp [jobs_found store source place leads, List.mem_filter]

-- The input of a job and the place of the file that it is.
structure Reads (place : Place) (job : Job) : Prop where
  leads : store.resolve source = .ok place
  file : store.isFile (place ++ job.relative) = true
  input : job.input = if job.relative.isEmpty then source else source.below job.relative
  declaration : job.isDeclaration = true

theorem job_reads (job : Job) (member : job ∈ jobs store source) :
    ∃ place, Reads store source place job := by
  obtain ⟨place, resolves, ⟨relative, below, rfl⟩, declaration⟩ :=
    (mem_jobs store source job).mp member
  obtain ⟨text, found⟩ := (mem_files_below store place relative).mp below
  exact ⟨place, resolves, (is_file_iff store _).mpr ⟨text, found⟩, rfl, declaration⟩

theorem reads_unique (place : Place) (job other : Job) (reads : Reads store source place job)
    (reads' : Reads store source place other) (same : job.relative = other.relative) :
    job = other := by
  obtain ⟨input, relative⟩ := job
  obtain ⟨input', relative'⟩ := other
  cases same
  exact congrArg (Job.mk · relative) (reads.input.trans reads'.input.symm)

variable (sound : store.Sound) (place : Place) (job : Job) (reads : Reads store source place job)

include sound reads

theorem relative_named : ∀ name ∈ job.relative, IsName name := fun name member =>
  sound.named _ reads.file name (List.mem_append_right place member)

-- Nothing stands below a file, and the names below a directory end with a declaration file.
theorem relative_empty_iff : job.relative = [] ↔ store.isFile place = true := by
  constructor
  · intro empty
    simpa [empty] using reads.file
  · intro file
    apply Classical.byContradiction
    intro names
    have directory := sound.parents _ reads.file place (List.prefix_append place job.relative)
      (fun same => names (List.self_eq_append_right.mp same))
    simp [sound.apart place directory] at file

theorem relative_ends (names : job.relative ≠ []) :
    ∃ inner base, job.relative = inner ++ [base ++ ".d.ts"] := by
  obtain ⟨inner, last, same⟩ := (List.eq_nil_or_concat job.relative).resolve_left names
  rw [List.concat_eq_append] at same
  have named : IsName last := relative_named store source sound place job reads last (by simp [same])
  have filled : job.relative.isEmpty = false := by simpa using names
  obtain ⟨before, ends⟩ := Path.below_ends source inner last named
  have input : job.input.fileName? = some last := by
    rw [reads.input, filled, same]
    exact Path.ends_file_name _ before last ends
  have declaration : isDeclarationName last = true := by
    simpa [Job.isDeclaration, input] using reads.declaration
  exact ⟨inner, stem last, by rw [declaration_stem last declaration, same]⟩

theorem input_resolves : store.resolve job.input = .ok (place ++ job.relative) := by
  by_cases empty : job.relative = []
  · simpa [reads.input, empty] using reads.leads
  · obtain ⟨inner, base, same⟩ := relative_ends store source sound place job reads empty
    have filled : job.relative.isEmpty = false := by simpa using empty
    have named := relative_named store source sound place job reads
    rw [same] at named
    rw [reads.input, filled, same]
    apply resolve_below store sound.toStanding source place inner _ reads.leads named
    intro q before
    apply sound.parents _ reads.file
    · rw [same]
      exact (List.prefix_append_right_inj place).mpr (before.trans (List.prefix_append _ _))
    · rw [same]
      intro whole
      have short := before.length_le
      have length := congrArg List.length (List.append_cancel_left whole)
      rw [List.length_append] at length
      simp at length
      omega

end Jobs

section Paths

variable (dest : Path) (format : Format)

theorem output_ends (relative : Relative) :
    ∃ before, (outputPath dest relative format.extension).EndsWith before
      (stem (relative.getLastD "") ++ "." ++ format.extension) :=
  Path.with_file_name_ends _ _ (extension_named _ format)

theorem output_absolute (relative : Relative) (named : ∀ name ∈ relative, IsName name) :
    (outputPath dest relative format.extension).isAbsolute = dest.isAbsolute := by
  rw [outputPath, Path.with_file_name_absolute _ _ (extension_named _ format),
    Path.below_absolute dest relative fun first found =>
      name_nonempty first (named first (List.mem_of_mem_head? found))]

theorem output_names (inner : List String) (last : String)
    (declaration : isDeclarationName last = true) :
    (outputPath dest (inner ++ [last]) format.extension).names =
      dest.names ++ Path.spoken inner ++ [stem last ++ "." ++ format.extension] := by
  have named := declaration_named last declaration
  obtain ⟨before, ends⟩ := Path.below_ends dest inner last named
  have below : (dest.below (inner ++ [last])).names = dest.names ++ Path.spoken inner ++ [last] := by
    rw [Path.below_spoken, Path.spoken_append, Path.spoken_names [last] (by simp [named]),
      List.append_assoc]
  rw [outputPath, List.getLastD_concat, Path.with_file_name_names _ _ (extension_named _ format),
    Path.ends_file_name _ before _ ends, Option.isSome_some, if_pos rfl, below,
    List.dropLast_concat]

theorem output_mirrors (inner : List String) (base : String)
    (named : ∀ name ∈ inner ++ [base ++ ".d.ts"], IsName name) :
    (outputPath dest (inner ++ [base ++ ".d.ts"]) format.extension).names =
      dest.names ++ inner ++ [base ++ "." ++ format.extension] := by
  have proper : ∀ name ∈ inner, IsName name := fun name member =>
    named name (List.mem_append_left _ member)
  rw [output_names dest format inner _ (suffix_declaration base), stem_declaration,
    Path.spoken_names inner proper]

-- Without names to mirror, the last name of the destination is lost.
theorem output_of_file :
    (outputPath dest [] format.extension).names =
      (if dest.fileName?.isSome then dest.names.dropLast else dest.names) ++
        ["." ++ format.extension] := by
  have proper : IsName ("." ++ format.extension) := by
    simpa using extension_named "" format
  have spelled : stem (([] : Relative).getLastD "") ++ "." ++ format.extension =
      "." ++ format.extension := by
    have nothing : stem (([] : Relative).getLastD "") = "" := by decide
    rw [nothing, String.empty_append]
  rw [outputPath, spelled, Path.with_file_name_names _ _ proper, Path.below_nothing_file_name,
    Path.below_names dest [] nofun, List.append_nil]

end Paths

section Runs

variable (plan : Plan)

def Plan.output (job : Job) : Path := outputPath plan.dest job.relative plan.format.extension

theorem save_texts (store : Store) (output : Path) (converted : ConvertedFile) (q : Place)
    (changed : (plan.save store output converted).1.text? q ≠ store.text? q) :
    q = output.place store.home := by
  unfold Plan.save at changed
  cases created : store.createAll output.parent with
  | error e => simp [created] at changed
  | ok next =>
      obtain ⟨files, home⟩ := create_all_files store next output.parent created
      have kept (r : Place) : next.text? r = store.text? r := by rw [text?, text?, files]
      simp only [created] at changed
      cases written : next.write output (Format.write converted plan.format) with
      | error e => simp [written, kept] at changed
      | ok last =>
          obtain ⟨-, rfl⟩ := write_puts next last output _ written
          simp only [written, text_put, kept] at changed
          by_cases same : q = output.place next.home
          · rw [same, home]
          · rw [if_neg same] at changed
            exact absurd rfl changed

theorem convert_one_texts (store : Store) (job : Job) (q : Place)
    (changed : (plan.convertOne store job).1.text? q ≠ store.text? q) :
    q = (plan.output job).place store.home := by
  unfold Plan.convertOne at changed
  cases read : store.read job.input with
  | error e => simp [read] at changed
  | ok text =>
      simp only [read] at changed
      exact save_texts plan store _ _ q changed

theorem save_home (store : Store) (output : Path) (converted : ConvertedFile) :
    (plan.save store output converted).1.home = store.home := by
  unfold Plan.save
  cases created : store.createAll output.parent with
  | error e => rfl
  | ok next =>
      obtain ⟨-, home⟩ := create_all_files store next output.parent created
      dsimp only
      cases written : next.write output (Format.write converted plan.format) with
      | error e => exact home
      | ok last =>
          obtain ⟨-, rfl⟩ := write_puts next last output _ written
          exact home

theorem convert_one_home (store : Store) (job : Job) :
    (plan.convertOne store job).1.home = store.home := by
  unfold Plan.convertOne
  cases store.read job.input with
  | error e => rfl
  | ok text => exact save_home plan store _ _

theorem convert_all_texts (store : Store) (run : List Job) (q : Place)
    (changed : (plan.convertAll store run).1.text? q ≠ store.text? q) :
    ∃ job ∈ run, q = (plan.output job).place store.home := by
  induction run generalizing store with
  | nil => exact absurd rfl changed
  | cons job run ih =>
      by_cases first : (plan.convertOne store job).1.text? q = store.text? q
      · rw [← first] at changed
        obtain ⟨other, member, leads⟩ := ih _ changed
        rw [convert_one_home] at leads
        exact ⟨other, List.mem_cons_of_mem job member, leads⟩
      · exact ⟨job, List.mem_cons_self, convert_one_texts plan store job q first⟩

end Runs

-- An input below the source and the output that stands below the destination in the same way.
structure Mirrors (source dest : Path) (format : Format) (job : Job) (inner : List String)
    (base : String) : Prop where
  relative : job.relative = inner ++ [base ++ ".d.ts"]
  input : job.input.names = source.names ++ inner ++ [base ++ ".d.ts"]
  output : (outputPath dest job.relative format.extension).names =
    dest.names ++ inner ++ [base ++ "." ++ format.extension]
  absolute : (outputPath dest job.relative format.extension).isAbsolute = dest.isAbsolute
  named : ∀ name ∈ inner, IsName name

theorem job_mirrors (store : Store) (source dest : Path) (format : Format) (sound : store.Sound)
    (place : Place) (job : Job) (reads : Reads store source place job) (names : job.relative ≠ []) :
    ∃ inner base, Mirrors source dest format job inner base := by
  obtain ⟨inner, base, same⟩ := relative_ends store source sound place job reads names
  have named := relative_named store source sound place job reads
  have filled : job.relative.isEmpty = false := by simpa using names
  refine ⟨inner, base, same, ?_, ?_, output_absolute dest format job.relative named, ?_⟩
  · rw [reads.input, filled]
    change (source.below job.relative).names = _
    rw [Path.below_names source _ named, same, List.append_assoc]
  · rw [same] at named ⊢
    exact output_mirrors dest format inner base named
  · intro name member
    exact named name (by rw [same]; exact List.mem_append_left _ member)

theorem mirrored_place (home : Place) (source dest : Path) (format : Format) (job : Job)
    (inner : List String) (base : String) (mirrors : Mirrors source dest format job inner base) :
    (outputPath dest job.relative format.extension).place home =
      dest.place home ++ inner ++ [base ++ "." ++ format.extension] := by
  have proper : ∀ name ∈ inner ++ [base ++ "." ++ format.extension], IsName name := by
    intro name member
    rcases List.mem_append.mp member with inside | last
    · exact mirrors.named name inside
    · rw [List.mem_singleton.mp last]
      exact extension_named base format
  rw [Path.place, Path.place, Path.start, Path.start, mirrors.absolute, mirrors.output,
    List.append_assoc, follow_append, follow_names _ _ proper, List.append_assoc]

-- What a tree changes stands below its destination, at the mirrored place of one of its inputs.
theorem tree_mirrors_source (env : Environment) (settings : Settings) (source dest : Path)
    (format : Option String) (sound : env.store.Sound)
    (folder : ∀ place, env.store.resolve source = .ok place → env.store.isFile place = false) :
    (∀ job ∈ jobs env.store source, ∀ chosen : Format,
      ∃ inner base, Mirrors source dest chosen job inner base) ∧
    ∀ q, (runTree env settings source dest format).store.text? q ≠ env.store.text? q →
      ∃ chosen, settings.outputFormat format = .ok chosen ∧
        ∃ job ∈ jobs env.store source, ∃ inner base, Mirrors source dest chosen job inner base ∧
          q = dest.place env.store.home ++ inner ++ [base ++ "." ++ chosen.extension] := by
  have mirrored (job : Job) (member : job ∈ jobs env.store source) (chosen : Format) :
      ∃ inner base, Mirrors source dest chosen job inner base := by
    obtain ⟨place, reads⟩ := job_reads env.store source job member
    apply job_mirrors env.store source dest chosen sound place job reads
    intro empty
    have file := (relative_empty_iff env.store source sound place job reads).mp empty
    rw [folder place reads.leads] at file
    cases file
  refine ⟨mirrored, fun q changed => ?_⟩
  unfold runTree at changed
  cases known : settings.outputFormat format with
  | error problem => simp [known, Outcome.fail] at changed
  | ok chosen =>
      simp only [known] at changed
      by_cases none : (jobs env.store source).isEmpty = true
      · simp [none, Outcome.fail] at changed
      · rw [if_neg none] at changed
        obtain ⟨job, member, leads⟩ := convert_all_texts _ env.store _ q changed
        obtain ⟨inner, base, mirrors⟩ := mirrored job member chosen
        exact ⟨chosen, rfl, job, member, inner, base, mirrors,
          leads.trans (mirrored_place env.store.home source dest chosen job inner base mirrors)⟩

-- Files of which only empty programs are read.
def emptyPrograms (files : List (Place × String)) : Environment where
  store := .ofFiles [] files
  input := ""
  general := none
  parse text := ⟨"program", [], true, ⟨0, text.utf8ByteSize⟩, text, "", []⟩

def nestedEnvironment : Environment :=
  emptyPrograms [(["lone.d.ts"], ""), (["src", "a", "index.d.ts"], "")]

theorem nested_sound : nestedEnvironment.store.Sound := by
  apply of_files_sound <;> decide

theorem nested_output_mirrored :
    (runTree nestedEnvironment .unset ⟨["src"]⟩ ⟨["out"]⟩ none).store.text?
        ["out", "a", "index.js.flow"] ≠ none ∧
      ∃ job ∈ jobs nestedEnvironment.store ⟨["src"]⟩, ∃ inner base,
        Mirrors ⟨["src"]⟩ ⟨["out"]⟩ .flow job inner base ∧
          ["out", "a", "index.js.flow"] = ["out"] ++ inner ++ [base ++ "." ++ "js.flow"] := by
  have changed : (runTree nestedEnvironment .unset ⟨["src"]⟩ ⟨["out"]⟩ none).store.text?
      ["out", "a", "index.js.flow"] ≠ none := by decide +kernel
  refine ⟨changed, ?_⟩
  obtain ⟨chosen, picked, job, member, inner, base, mirrors, whole⟩ :=
    (tree_mirrors_source nestedEnvironment .unset ⟨["src"]⟩ ⟨["out"]⟩ none nested_sound (by
      intro place leads
      have here : nestedEnvironment.store.resolve ⟨["src"]⟩ = .ok ["src"] := rfl
      cases here.symm.trans leads
      decide)).2 ["out", "a", "index.js.flow"] changed
  cases picked
  exact ⟨job, member, inner, base, mirrors, whole⟩

-- A file given as the source is the only input, and its output stands beside the destination.
theorem file_output_beside (store : Store) (sound : store.Sound) (source dest : Path)
    (place : Place) (leads : store.resolve source = .ok place) (file : store.isFile place = true)
    (format : Format) (job : Job) (member : job ∈ jobs store source) :
    job = ⟨source, []⟩ ∧ (outputPath dest job.relative format.extension).names =
      (if dest.fileName?.isSome then dest.names.dropLast else dest.names) ++
        ["." ++ format.extension] := by
  obtain ⟨other, reads⟩ := job_reads store source job member
  have same : other = place := Except.ok.inj (reads.leads.symm.trans leads)
  have empty := (relative_empty_iff store source sound other job reads).mpr (same ▸ file)
  have input : job.input = source := by simp [reads.input, empty]
  refine ⟨?_, by rw [empty, output_of_file]⟩
  rw [← input, ← empty]

theorem lone_output_escapes :
    (runTree nestedEnvironment .unset ⟨["lone.d.ts"]⟩ ⟨["out"]⟩ none).store.text? [".js.flow"] ≠
        nestedEnvironment.store.text? [".js.flow"] ∧
      (outputPath ⟨["out"]⟩ [] Format.flow.extension).text = ".js.flow" := by
  decide +kernel

end FlowDefs.Command
