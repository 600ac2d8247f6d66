import FlowDefs.Proofs.Command.Outputs
set_option autoImplicit false

namespace FlowDefs.Command

open Store Place

-- The directories that an output asks for.
abbrev wayTo (home : Place) (output : Path) : List Place :=
  trail (output.parent.start home) output.parent.names

-- The output with its directories made.
structure Made (store : Store) (output : Path) (made : Store) : Prop where
  created : store.createAll output.parent = .ok made
  free : ∀ q ∈ wayTo store.home output, store.isFile q = false
  files : made.files = store.files
  home : made.home = store.home
  directories : ∀ q, made.isDirectory q = true ↔
    store.isDirectory q = true ∨ q ∈ wayTo store.home output
  standing : made.Standing

section Saving

variable (store : Store) (standing : store.Standing) (output : Path)
  (before : List String) (name : String) (ends : output.EndsWith before name)

include standing ends

-- With its directories made, only a directory in the place of an output keeps it from being written.
theorem created_made (made : Store) (created : store.createAll output.parent = .ok made) :
    Made store output made ∧ ∀ text, made.write output text =
      if made.isDirectory (output.place store.home) then .error .isDirectory
      else .ok (made.put (output.place store.home) text) := by
  have creates := create_all_creates store made standing output.parent created
  have found := Path.ends_file_name output before name ends
  have names : output.parent.names = Path.spoken before := by
    rw [Path.file_parent_names output name found, Path.ends_names output before name ends,
      List.dropLast_concat]
  have start : output.parent.start store.home = output.start store.home := by
    rw [Path.start, Path.start, Path.file_parent_absolute output name found]
  obtain ⟨files, home⟩ := create_all_files store made output.parent created
  have standing' : made.Standing := by
    constructor
    · intro q directory
      rw [is_file_of_files store made files]
      rcases (creates.directories q).mp directory with old | inside
      · exact standing.apart q old
      · exact creates.free q inside
    · rw [home]
      exact (creates.directories _).mpr (.inl standing.home)
  have passable : ∀ q ∈ trail (output.start made.home) (Path.spoken before),
      made.isDirectory q = true := by
    intro q inside
    rw [home, ← names, ← start] at inside
    exact (creates.directories q).mpr (.inr inside)
  refine ⟨⟨created, creates.free, files, home, creates.directories, standing'⟩, fun text => ?_⟩
  rw [← home]
  exact write_named made standing' output before name ends passable text

theorem save_cases (plan : Plan) (converted : ConvertedFile) :
    (∃ e, store.createAll output.parent = .error e ∧
      plan.save store output converted = (store, .error (.create output.parent e))) ∨
    ∃ made, Made store output made ∧
      plan.save store output converted =
        if made.isDirectory (output.place store.home) then (made, .error (.write output .isDirectory))
        else (made.put (output.place store.home) (Format.write converted plan.format),
          .ok ⟨converted.placeholders, converted.diagnostics.length⟩) := by
  cases created : store.createAll output.parent with
  | error e => exact .inl ⟨e, rfl, by rw [Plan.save, created]⟩
  | ok made =>
      obtain ⟨ready, writes⟩ := created_made store standing output before name ends made created
      refine .inr ⟨made, ready, ?_⟩
      rw [Plan.save, created]
      simp only [writes]
      by_cases taken : made.isDirectory (output.place store.home) = true
      · rw [if_pos taken, if_pos taken]
      · rw [if_neg taken, if_neg taken]

end Saving

-- What saving changes: directories on the way, and a text where no directory is.
structure Touches (store next : Store) (output : Path) : Prop where
  standing : next.Standing
  grows : Grows store next
  adds : ∀ q, next.isDirectory q = true →
    store.isDirectory q = true ∨ q ∈ wayTo store.home output ∧ store.isFile q = false
  files : ∀ q, store.isFile q = true → next.isFile q = true
  texts : ∀ q, next.text? q ≠ store.text? q →
    q = output.place store.home ∧ q ∉ wayTo store.home output ∧ store.isDirectory q = false

theorem touches_refl (store : Store) (standing : store.Standing) (output : Path) :
    Touches store store output :=
  ⟨standing, ⟨rfl, fun _ => id⟩, fun _ => .inl, fun _ => id, fun _ changed => absurd rfl changed⟩

theorem made_touches (store made : Store) (output : Path) (ready : Made store output made) :
    Touches store made output := by
  have text (q : Place) : made.text? q = store.text? q := by rw [text?, text?, ready.files]
  constructor
  · exact ready.standing
  · exact ⟨ready.home, fun q old => (ready.directories q).mpr (.inl old)⟩
  · intro q directory
    rcases (ready.directories q).mp directory with old | inside
    · exact .inl old
    · exact .inr ⟨inside, ready.free q inside⟩
  · intro q file
    rw [isFile, text q]
    exact file
  · exact fun q changed => absurd (text q) changed

theorem put_touches (store made : Store) (output : Path) (text : String)
    (ready : Made store output made)
    (free : made.isDirectory (output.place store.home) = false) :
    Touches store (made.put (output.place store.home) text) output := by
  have touched := made_touches store made output ready
  constructor
  · constructor
    · intro q directory
      rw [isFile, text_put]
      by_cases same : q = output.place store.home
      · rw [directory_put, same, free] at directory
        cases directory
      · rw [if_neg same]
        exact touched.standing.apart q directory
    · exact touched.standing.home
  · exact ⟨touched.grows.home, touched.grows.directories⟩
  · exact touched.adds
  · intro q file
    rw [isFile, text_put]
    by_cases same : q = output.place store.home
    · rw [if_pos same]
      rfl
    · rw [if_neg same]
      exact touched.files q file
  · intro q changed
    rw [text_put] at changed
    by_cases same : q = output.place store.home
    · have clear (known : store.isDirectory q = true ∨ q ∈ wayTo store.home output) : False := by
        rw [← same, (ready.directories q).mpr known] at free
        cases free
      exact ⟨same, fun inside => clear (.inr inside),
        Bool.eq_false_iff.mpr fun old => clear (.inl old)⟩
    · rw [if_neg same] at changed
      exact touched.texts q changed

section Converting

variable (plan : Plan) (store : Store) (standing : store.Standing)

include standing

theorem save_touches (job : Job) (converted : ConvertedFile) :
    Touches store (plan.save store (plan.output job) converted).1 (plan.output job) := by
  obtain ⟨before, ends⟩ := output_ends plan.dest plan.format job.relative
  rcases save_cases store standing (plan.output job) before _ ends plan converted with
    ⟨e, -, saved⟩ | ⟨made, ready, saved⟩
  · rw [saved]
    exact touches_refl store standing (plan.output job)
  · rw [saved]
    by_cases taken : made.isDirectory ((plan.output job).place store.home) = true
    · rw [if_pos taken]
      exact made_touches store made _ ready
    · rw [if_neg taken]
      exact put_touches store made _ _ ready (by simpa using taken)

-- The result of saving depends on files along the way and on a directory at the output.
theorem save_agree (other : Store) (standing' : other.Standing) (homes : other.home = store.home)
    (job : Job) (converted : ConvertedFile)
    (files : ∀ q ∈ wayTo store.home (plan.output job), store.isFile q = other.isFile q)
    (directory : (plan.output job).place store.home ∈ wayTo store.home (plan.output job) ∨
      store.isDirectory ((plan.output job).place store.home) =
        other.isDirectory ((plan.output job).place store.home)) :
    (plan.save store (plan.output job) converted).2 =
      (plan.save other (plan.output job) converted).2 := by
  obtain ⟨before, ends⟩ := output_ends plan.dest plan.format job.relative
  have agree := create_all_agree store other standing standing' homes (plan.output job).parent files
  rcases save_cases store standing (plan.output job) before _ ends plan converted with
    ⟨e, failed, saved⟩ | ⟨made, ready, saved⟩
  · rcases save_cases other standing' (plan.output job) before _ ends plan converted with
      ⟨e', failed', saved'⟩ | ⟨made', ready', saved'⟩
    · rw [failed, failed'] at agree
      rw [saved, saved', Except.error.inj agree]
    · rw [failed, ready'.created] at agree
      cases agree
  · rcases save_cases other standing' (plan.output job) before _ ends plan converted with
      ⟨e', failed', saved'⟩ | ⟨made', ready', saved'⟩
    · rw [ready.created, failed'] at agree
      cases agree
    · rw [homes] at saved'
      have both : made.isDirectory ((plan.output job).place store.home) =
          made'.isDirectory ((plan.output job).place store.home) := by
        rw [Bool.eq_iff_iff, ready.directories, ready'.directories, homes]
        rcases directory with inside | equal
        · simp [inside]
        · rw [equal]
      rw [saved, saved', both]
      by_cases taken : made'.isDirectory ((plan.output job).place store.home) = true
      · rw [if_pos taken, if_pos taken]
      · rw [if_neg taken, if_neg taken]

omit standing in
theorem convert_one_unread (job : Job) (e : StoreError) (fails : store.read job.input = .error e) :
    plan.convertOne store job = (store, .error (.read job.input e)) := by
  rw [Plan.convertOne, fails]

omit standing in
theorem convert_one_read (job : Job) (text : String) (reads : store.read job.input = .ok text) :
    plan.convertOne store job = plan.save store (plan.output job)
      (plan.convert (Text.join "/" job.relative) text) := by
  rw [Plan.convertOne, reads]
  rfl

theorem convert_one_touches (job : Job) :
    Touches store (plan.convertOne store job).1 (plan.output job) := by
  cases reads : store.read job.input with
  | error e =>
      rw [convert_one_unread plan store job e reads]
      exact touches_refl store standing (plan.output job)
  | ok text =>
      rw [convert_one_read plan store job text reads]
      exact save_touches plan store standing job _

end Converting

end FlowDefs.Command
