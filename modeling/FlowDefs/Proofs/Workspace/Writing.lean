import FlowDefs.Proofs.Workspace.Places
set_option autoImplicit false

namespace FlowDefs

namespace Store

open Place

theorem lookup_without (files : List (Place × String)) (place q : Place) (other : q ≠ place) :
    (files.filter fun file => file.1 ≠ place).lookup q = files.lookup q := by
  induction files with
  | nil => rfl
  | cons file files ih =>
      by_cases same : file.1 = place
      · have miss : (q == file.1) = false := by simpa [same] using other
        rw [List.filter_cons_of_neg (by simpa using same), List.lookup_cons, miss]
        exact ih
      · rw [List.filter_cons_of_pos (by simpa using same), List.lookup_cons, List.lookup_cons, ih]

theorem text_put (store : Store) (place q : Place) (text : String) :
    (store.put place text).text? q = if q = place then some text else store.text? q := by
  rw [text?, put, List.lookup_cons]
  by_cases same : q = place
  · simp [same]
  · have miss : (q == place) = false := by simpa using same
    rw [miss, if_neg same]
    exact lookup_without store.files place q same

theorem directory_put (store : Store) (place q : Place) (text : String) :
    (store.put place text).isDirectory q = store.isDirectory q := rfl

theorem write_puts (store next : Store) (p : Path) (text : String)
    (writes : store.write p text = .ok next) :
    store.isDirectory (p.place store.home) = false ∧
      next = store.put (p.place store.home) text := by
  unfold write at writes
  split at writes
  · cases found : store.resolve ⟨p.withoutSlashes⟩ with
    | error e =>
        rw [found] at writes
        cases writes
    | ok place =>
        rw [found] at writes
        cases writes
  · cases found : store.resolve p with
    | error e =>
        rw [found] at writes
        cases writes
    | ok place =>
        rw [found] at writes
        simp only [bind, Except.bind] at writes
        split at writes
        · cases writes
        · next free =>
            cases writes
            cases resolve_leads store p place found
            exact ⟨by simpa using free, rfl⟩

theorem write_named (store : Store) (standing : store.Standing) (p : Path)
    (before : List String) (name : String) (ends : p.EndsWith before name)
    (passable : ∀ q ∈ trail (p.start store.home) (Path.spoken before), store.isDirectory q = true)
    (text : String) : store.write p text =
      if store.isDirectory (p.place store.home) then .error .isDirectory
      else .ok (store.put (p.place store.home) text) := by
  let start := p.start store.home
  let above := follow start (Path.spoken before)
  have noSlash : p.segments.getLast? ≠ some "" := by
    rw [ends.segments, List.getLast?_concat]
    exact fun same => name_nonempty name ends.named (Option.some.inj same)
  have begins : store.isDirectory start = true := start_directory store standing p
  have directory : store.isDirectory above = true := by
    rcases follow_mem_trail start (Path.spoken before) with same | inside
    · exact (congrArg store.isDirectory same).trans begins
    · exact passable above inside
  have place : p.place store.home = step above name := by
    rw [Path.place, Path.ends_names p before name ends, follow_append]
    rfl
  have found : store.resolve p = .ok (p.place store.home) := by
    apply (resolve_ok_iff store p _).mpr
    refine ⟨fun single => noSlash (by rw [single]; rfl), ?_⟩
    rw [ends.segments, List.foldlM_append, enter_all store standing start before begins passable]
    change [name].foldlM store.enter above = _
    rw [List.foldlM_cons, enter_name store standing above directory name ends.named.1, place]
    rfl
  rw [write, if_neg noSlash, found]
  rfl

def withDirectory (store : Store) (place : Place) : Store :=
  if store.isDirectory place then store else { store with directories := place :: store.directories }

theorem with_directory_files (store : Store) (place : Place) :
    (store.withDirectory place).files = store.files := by
  unfold withDirectory
  split <;> rfl

theorem is_file_of_files (store other : Store) (same : other.files = store.files) (place : Place) :
    other.isFile place = store.isFile place := by
  rw [isFile, isFile, text?, text?, same]

theorem with_directory_directories (store : Store) (place q : Place) :
    (store.withDirectory place).isDirectory q = true ↔ store.isDirectory q = true ∨ q = place := by
  unfold withDirectory
  by_cases old : store.isDirectory place = true
  · rw [if_pos old]
    exact ⟨.inl, fun known => known.elim id fun same => same ▸ old⟩
  · rw [if_neg old]
    simp only [isDirectory, Bool.or_eq_true, List.contains_iff_mem, List.mem_cons]
    rw [or_assoc]
    exact or_congr Iff.rfl or_comm

theorem with_directory_home (store : Store) (place : Place) :
    (store.withDirectory place).home = store.home := by
  unfold withDirectory
  split <;> rfl

theorem with_directory_standing (store : Store) (standing : store.Standing) (place : Place)
    (free : store.isFile place = false) : (store.withDirectory place).Standing := by
  constructor
  · intro q directory
    rw [is_file_of_files store _ (with_directory_files store place)]
    rcases (with_directory_directories store place q).mp directory with old | rfl
    · exact standing.apart q old
    · exact free
  · rw [with_directory_home]
    exact (with_directory_directories store place _).mpr (.inl standing.home)

section Creating

variable (store : Store) (standing : store.Standing) (place : Place)
  (directory : store.isDirectory place = true) (segment : String) (segments : List String)

include standing directory

theorem create_silent (silent : isSilent segment = true) :
    store.createAlong place (segment :: segments) = store.createAlong place segments := by
  rw [createAlong, enter_silent store standing place directory segment silent]
  simp [standing.apart place directory, directory]

theorem create_name (named : isSilent segment = false) :
    store.createAlong place (segment :: segments) =
      if store.isFile (step place segment) then
        .error (if segments.isEmpty then .alreadyExists else .notDirectory)
      else (store.withDirectory (step place segment)).createAlong (step place segment) segments := by
  rw [createAlong, enter_name store standing place directory segment named]
  by_cases file : store.isFile (step place segment) = true
  · simp [file]
  · by_cases old : store.isDirectory (step place segment) = true
    · simp [file, old, withDirectory]
    · simp [file, old, withDirectory]

end Creating

theorem create_along_files (store next : Store) (place : Place) (segments : List String)
    (created : store.createAlong place segments = .ok next) :
    next.files = store.files ∧ next.home = store.home := by
  induction segments generalizing store place with
  | nil =>
      cases created
      exact ⟨rfl, rfl⟩
  | cons segment segments ih =>
      rw [createAlong] at created
      cases enters : store.enter place segment with
      | error e =>
          rw [enters] at created
          cases created
      | ok q =>
          simp only [enters] at created
          by_cases file : store.isFile q = true
          · rw [if_pos file] at created
            cases created
          · rw [if_neg file] at created
            by_cases old : store.isDirectory q = true
            · rw [if_pos old] at created
              exact ih store q created
            · rw [if_neg old] at created
              exact ih { store with directories := q :: store.directories } q created

theorem create_all_files (store next : Store) (p : Path) (created : store.createAll p = .ok next) :
    next.files = store.files ∧ next.home = store.home := by
  unfold createAll at created
  split at created
  · cases created
    exact ⟨rfl, rfl⟩
  · exact create_along_files store next _ p.segments created

-- The store with all directories on a way that no file blocks.
structure Creates (store : Store) (place : Place) (names : List String) (next : Store) : Prop where
  free : ∀ q ∈ trail place names, store.isFile q = false
  directories : ∀ q, next.isDirectory q = true ↔
    store.isDirectory q = true ∨ q ∈ trail place names

theorem create_along_creates (store next : Store) (standing : store.Standing) (place : Place)
    (directory : store.isDirectory place = true) (segments : List String)
    (created : store.createAlong place segments = .ok next) :
    store.Creates place (Path.spoken segments) next := by
  induction segments generalizing store place with
  | nil =>
      cases created
      exact ⟨nofun, fun q => ⟨.inl, fun known => known.elim id nofun⟩⟩
  | cons segment segments ih =>
      by_cases silent : isSilent segment = true
      · rw [create_silent store standing place directory segment segments silent] at created
        rw [Path.spoken_skips segment segments silent]
        exact ih store standing place directory created
      · have named : isSilent segment = false := by simpa using silent
        rw [create_name store standing place directory segment segments named] at created
        rw [Path.spoken_keeps segment segments named]
        generalize reached : step place segment = q at created
        by_cases file : store.isFile q = true
        · simp [file] at created
        · have free : store.isFile q = false := by simpa using file
          rw [if_neg file] at created
          have added (r : Place) := with_directory_directories store q r
          have rest := ih (store.withDirectory q) (with_directory_standing store standing q free) q
            ((added q).mpr (.inr rfl)) created
          have same (r : Place) : (store.withDirectory q).isFile r = store.isFile r :=
            is_file_of_files store _ (with_directory_files store q) r
          constructor
          · intro r member
            rw [trail, reached] at member
            rcases List.mem_cons.mp member with rfl | later
            · exact free
            · rw [← same r]
              exact rest.free r later
          · intro r
            rw [rest.directories r, added r, trail, reached, List.mem_cons, or_assoc]

-- Whether and how the creation fails depends only on the files on the way.
theorem create_along_agree (store other : Store) (standing : store.Standing)
    (standing' : other.Standing) (place : Place) (directory : store.isDirectory place = true)
    (directory' : other.isDirectory place = true) (segments : List String)
    (agree : ∀ q ∈ trail place (Path.spoken segments), store.isFile q = other.isFile q) :
    (store.createAlong place segments).map (fun _ => ()) =
      (other.createAlong place segments).map fun _ => () := by
  induction segments generalizing store other place with
  | nil => rfl
  | cons segment segments ih =>
      by_cases silent : isSilent segment = true
      · rw [Path.spoken_skips segment segments silent] at agree
        rw [create_silent store standing place directory segment segments silent,
          create_silent other standing' place directory' segment segments silent]
        exact ih store other standing standing' place directory directory' agree
      · have named : isSilent segment = false := by simpa using silent
        rw [create_name store standing place directory segment segments named,
          create_name other standing' place directory' segment segments named]
        rw [Path.spoken_keeps segment segments named, trail] at agree
        generalize step place segment = q at agree
        have here : store.isFile q = other.isFile q := agree q List.mem_cons_self
        by_cases file : store.isFile q = true
        · simp [file, ← here]
        · have free : store.isFile q = false := by simpa using file
          have free' : other.isFile q = false := here ▸ free
          rw [if_neg file, if_neg (by simp [free'])]
          apply ih _ _ (with_directory_standing store standing q free)
            (with_directory_standing other standing' q free') q
          · exact (with_directory_directories store q q).mpr (.inr rfl)
          · exact (with_directory_directories other q q).mpr (.inr rfl)
          · intro r later
            rw [is_file_of_files store _ (with_directory_files store q),
              is_file_of_files other _ (with_directory_files other q)]
            exact agree r (List.mem_cons_of_mem q later)

theorem create_all_along (store : Store) (standing : store.Standing) (p : Path) :
    store.createAll p = store.createAlong (p.start store.home) p.segments := by
  unfold createAll
  split
  · next empty =>
      rw [empty, create_silent store standing _ (start_directory store standing p) "" [] (by decide)]
      rfl
  · rfl

theorem create_all_creates (store next : Store) (standing : store.Standing) (p : Path)
    (created : store.createAll p = .ok next) :
    store.Creates (p.start store.home) p.names next := by
  rw [create_all_along store standing] at created
  exact create_along_creates store next standing _ (start_directory store standing p) p.segments
    created

theorem create_all_agree (store other : Store) (standing : store.Standing)
    (standing' : other.Standing) (homes : other.home = store.home) (p : Path)
    (agree : ∀ q ∈ trail (p.start store.home) p.names, store.isFile q = other.isFile q) :
    (store.createAll p).map (fun _ => ()) = (other.createAll p).map fun _ => () := by
  have there := start_directory other standing' p
  rw [create_all_along store standing, create_all_along other standing']
  rw [homes] at there ⊢
  exact create_along_agree store other standing standing' _ (start_directory store standing p)
    there p.segments agree

end Store

end FlowDefs
