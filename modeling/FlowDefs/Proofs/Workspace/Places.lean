import FlowDefs.Proofs.Workspace.Paths
import FlowDefs.Workspace.Store
set_option autoImplicit false

namespace FlowDefs

namespace Place

def step (place : Place) (name : String) : Place :=
  if name = ".." then place.dropLast else place ++ [name]

def follow (place : Place) (names : List String) : Place := names.foldl step place

-- The places on the way.
def trail (place : Place) : List String → List Place
  | [] => []
  | name :: names => step place name :: trail (step place name) names

theorem step_name (place : Place) (name : String) (proper : IsName name) :
    step place name = place ++ [name] := if_neg proper.2

theorem follow_append (place : Place) (left right : List String) :
    follow place (left ++ right) = follow (follow place left) right := List.foldl_append

theorem trail_append (place : Place) (left right : List String) :
    trail place (left ++ right) = trail place left ++ trail (follow place left) right := by
  induction left generalizing place with
  | nil => rfl
  | cons name left ih => exact congrArg (step place name :: ·) (ih (step place name))

theorem follow_names (place : Place) (names : List String) (proper : ∀ name ∈ names, IsName name) :
    follow place names = place ++ names := by
  induction names generalizing place with
  | nil => exact (List.append_nil place).symm
  | cons name names ih =>
      have rest := ih (step place name) fun other later => proper other (List.mem_cons_of_mem name later)
      rw [step_name place name (proper name List.mem_cons_self)] at rest
      rw [follow, List.foldl_cons, step_name place name (proper name List.mem_cons_self)]
      exact rest.trans (List.append_assoc place [name] names)

theorem mem_trail_names (place q : Place) (names : List String)
    (proper : ∀ name ∈ names, IsName name) (member : q ∈ trail place names) :
    ∃ inner, inner <+: names ∧ q = place ++ inner := by
  induction names generalizing place with
  | nil => cases member
  | cons name names ih =>
      rw [trail, step_name place name (proper name List.mem_cons_self)] at member
      rcases List.mem_cons.mp member with rfl | later
      · exact ⟨[name], ⟨names, rfl⟩, rfl⟩
      · obtain ⟨inner, ⟨rest, whole⟩, rfl⟩ :=
          ih (place ++ [name]) (fun other later => proper other (List.mem_cons_of_mem name later)) later
        exact ⟨name :: inner, ⟨rest, by rw [List.cons_append, whole]⟩, by simp⟩

theorem follow_mem_trail (place : Place) (names : List String) :
    follow place names = place ∨ follow place names ∈ trail place names := by
  induction names generalizing place with
  | nil => exact .inl rfl
  | cons name names ih =>
      rcases ih (step place name) with same | later
      · exact .inr (List.mem_cons.mpr (.inl same))
      · exact .inr (List.mem_cons_of_mem _ later)

end Place

-- The place that a path names for a process that works at home.
def Path.place (home : Place) (p : Path) : Place := Place.follow (p.start home) p.names

theorem Path.file_place (home : Place) (p : Path) (name : String) (found : p.fileName? = some name) :
    (p.place home).getLast? = some name := by
  obtain ⟨proper, before, same⟩ := file_name_last p name found
  have spelled : p.names = spoken before ++ [name] := by
    rw [← significant_names, same, spoken_append, spoken_names [name] (by simp [proper])]
  rw [place, spelled, Place.follow_append, Place.follow_names _ [name] (by simp [proper]),
    List.getLast?_concat]

namespace Store

open Place

-- What is a directory is no file, and the working directory is there.
structure Standing (store : Store) : Prop where
  apart : ∀ place, store.isDirectory place = true → store.isFile place = false
  home : store.isDirectory store.home = true

theorem start_directory (store : Store) (standing : store.Standing) (p : Path) :
    store.isDirectory (p.start store.home) = true := by
  unfold Path.start
  split
  · rfl
  · exact standing.home

theorem enter_leads (store : Store) (place next : Place) (segment : String)
    (enters : store.enter place segment = .ok next) :
    store.isDirectory place = true ∧ next = follow place (Path.spoken [segment]) := by
  unfold enter at enters
  split at enters
  · cases enters
  · split at enters
    · cases enters
    · next directory =>
        refine ⟨by simpa using directory, ?_⟩
        split at enters
        · next silent =>
            cases enters
            have quiet : isSilent segment = true := by simpa [isSilent] using silent
            rw [Path.spoken_skips _ _ quiet]
            rfl
        · next loud =>
            have named : isSilent segment = false := by simpa [isSilent] using loud
            rw [Path.spoken_keeps _ _ named]
            split at enters
            · next up =>
                cases enters
                exact (if_pos up).symm
            · next name =>
                cases enters
                exact (if_neg name).symm

section Entering

variable (store : Store) (standing : store.Standing) (place : Place)
  (directory : store.isDirectory place = true) (segment : String)

include standing directory

theorem enter_silent (silent : isSilent segment = true) : store.enter place segment = .ok place := by
  have quiet : segment = "" ∨ segment = "." := by simpa [isSilent] using silent
  simp [enter, standing.apart place directory, directory, quiet]

theorem enter_name (named : isSilent segment = false) :
    store.enter place segment = .ok (step place segment) := by
  have loud : ¬ (segment = "" ∨ segment = ".") := by simpa [isSilent] using named
  by_cases up : segment = ".."
  · simp [enter, standing.apart place directory, directory, step, up]
  · simp [enter, standing.apart place directory, directory, loud, step, up]

end Entering

theorem resolve_ok_iff (store : Store) (p : Path) (place : Place) :
    store.resolve p = .ok place ↔
      p.segments ≠ [""] ∧ p.segments.foldlM store.enter (p.start store.home) = .ok place := by
  unfold resolve
  split
  · next empty => simp [empty]
  · next filled => simp [filled]

theorem resolve_leads (store : Store) (p : Path) (place : Place)
    (resolves : store.resolve p = .ok place) : place = p.place store.home := by
  have walk (segments : List String) (start : Place)
      (enters : segments.foldlM store.enter start = .ok place) :
      place = follow start (Path.spoken segments) := by
    induction segments generalizing start with
    | nil =>
        cases enters
        rfl
    | cons segment segments ih =>
        rw [List.foldlM_cons] at enters
        cases first : store.enter start segment with
        | error e =>
            rw [first] at enters
            cases enters
        | ok next =>
            rw [first] at enters
            rw [← List.singleton_append, Path.spoken_append, follow_append,
              ← (enter_leads store start next segment first).2]
            exact ih next enters
  exact walk p.segments _ ((resolve_ok_iff store p place).mp resolves).2

-- A way through directories is open to the end.
theorem enter_all (store : Store) (standing : store.Standing) (place : Place)
    (segments : List String) (directory : store.isDirectory place = true)
    (passable : ∀ r ∈ trail place (Path.spoken segments), store.isDirectory r = true) :
    segments.foldlM store.enter place = .ok (follow place (Path.spoken segments)) := by
  induction segments generalizing place with
  | nil => rfl
  | cons segment segments ih =>
      rw [List.foldlM_cons]
      by_cases silent : isSilent segment = true
      · rw [Path.spoken_skips segment segments silent] at passable ⊢
        rw [enter_silent store standing place directory segment silent]
        exact ih place directory passable
      · have named : isSilent segment = false := by simpa using silent
        rw [Path.spoken_keeps segment segments named] at passable ⊢
        rw [enter_name store standing place directory segment named]
        exact ih (step place segment) (passable _ List.mem_cons_self)
          fun r later => passable r (List.mem_cons_of_mem _ later)

-- A later store works at the same place and keeps the directories.
structure Grows (store later : Store) : Prop where
  home : later.home = store.home
  directories : ∀ place, store.isDirectory place = true → later.isDirectory place = true

theorem enter_kept (store later : Store) (standing : later.Standing) (grows : Grows store later)
    (place next : Place) (segment : String) (enters : store.enter place segment = .ok next) :
    later.enter place segment = .ok next := by
  obtain ⟨directory, rfl⟩ := enter_leads store place next segment enters
  have there := grows.directories place directory
  by_cases silent : isSilent segment = true
  · rw [Path.spoken_skips segment [] silent]
    exact enter_silent later standing place there segment silent
  · have named : isSilent segment = false := by simpa using silent
    rw [Path.spoken_keeps segment [] named]
    exact enter_name later standing place there segment named

-- A way once found stays open.
theorem resolve_kept (store later : Store) (standing : later.Standing) (grows : Grows store later)
    (p : Path) (place : Place) (resolves : store.resolve p = .ok place) :
    later.resolve p = .ok place := by
  have walk (segments : List String) (start : Place)
      (enters : segments.foldlM store.enter start = .ok place) :
      segments.foldlM later.enter start = .ok place := by
    induction segments generalizing start with
    | nil => exact enters
    | cons segment segments ih =>
        rw [List.foldlM_cons] at enters ⊢
        cases first : store.enter start segment with
        | error e =>
            rw [first] at enters
            cases enters
        | ok next =>
            rw [first] at enters
            rw [enter_kept store later standing grows start next segment first]
            exact ih next enters
  obtain ⟨nonempty, enters⟩ := (resolve_ok_iff store p place).mp resolves
  rw [← grows.home] at enters
  exact (resolve_ok_iff later p place).mpr ⟨nonempty, walk p.segments _ enters⟩

theorem read_of_found (store : Store) (p : Path) (place : Place) (text : String)
    (resolves : store.resolve p = .ok place) (held : store.text? place = some text) :
    store.read p = .ok text := by
  simp [read, resolves, held, bind, Except.bind]

end Store

end FlowDefs
