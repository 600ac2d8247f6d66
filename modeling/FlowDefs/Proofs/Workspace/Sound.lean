import FlowDefs.Proofs.Lists
import FlowDefs.Proofs.Workspace.Places
set_option autoImplicit false

namespace FlowDefs.Store

open Place

-- A store that a real directory can hold.
structure Sound (store : Store) : Prop extends store.Standing where
  parents : ∀ place, store.isFile place = true →
    ∀ inner, inner <+: place → inner ≠ place → store.isDirectory inner = true
  named : ∀ place, store.isFile place = true → ∀ name ∈ place, IsName name

theorem is_file_iff (store : Store) (place : Place) :
    store.isFile place = true ↔ ∃ text, (place, text) ∈ store.files := by
  constructor
  · intro file
    obtain ⟨text, found⟩ := Option.isSome_iff_exists.mp file
    exact ⟨text, mem_of_lookup store.files place text found⟩
  · rintro ⟨text, member⟩
    cases held : store.files.lookup place with
    | none => simpa using List.lookup_eq_none_iff.mp held (place, text) member
    | some other => simp [isFile, text?, held]

section Files

variable (home : Place) (files : List (Place × String))

theorem mem_ancestors (place inner : Place) :
    inner ∈ ancestors place ↔ inner <+: place ∧ inner ≠ place := by
  simp only [ancestors, List.mem_map, List.mem_range]
  constructor
  · rintro ⟨n, short, rfl⟩
    refine ⟨List.take_prefix n place, fun same => ?_⟩
    have length := congrArg List.length same
    rw [List.length_take] at length
    omega
  · rintro ⟨⟨rest, rfl⟩, other⟩
    refine ⟨inner.length, ?_, List.take_left⟩
    cases rest with
    | nil => exact absurd (List.append_nil inner).symm other
    | cons name rest => simp

theorem of_files_directory (place : Place) :
    (ofFiles home files).isDirectory place = true ↔
      place <+: home ∨ ∃ file ∈ files, place <+: file.1 ∧ place ≠ file.1 := by
  have above : place = [] ∨ place = home ∨ place <+: home ∧ place ≠ home ↔ place <+: home := by
    constructor
    · rintro (rfl | rfl | ⟨before, -⟩)
      · exact List.nil_prefix
      · exact List.prefix_rfl
      · exact before
    · intro before
      by_cases same : place = home
      · exact .inr (.inl same)
      · exact .inr (.inr ⟨before, same⟩)
  rw [← above]
  simp only [isDirectory, ofFiles, Bool.or_eq_true, List.isEmpty_iff, List.contains_iff_mem,
    List.mem_eraseDups, List.cons_append, List.mem_cons, List.mem_append, List.mem_flatMap,
    mem_ancestors, or_assoc]

-- No file stands below another one or above the working directory.
theorem of_files_sound (outside : ∀ file ∈ files, ¬ file.1 <+: home)
    (named : ∀ file ∈ files, ∀ name ∈ file.1, IsName name)
    (leaves : ∀ file ∈ files, ∀ other ∈ files, file.1 <+: other.1 → file.1 = other.1) :
    (ofFiles home files).Sound := by
  constructor
  · constructor
    · intro place directory
      rw [Bool.eq_false_iff]
      intro file
      obtain ⟨text, member⟩ := (is_file_iff _ place).mp file
      rcases (of_files_directory home files place).mp directory with
        above | ⟨other, inside, above, apart⟩
      · exact outside _ member above
      · exact apart (leaves _ member other inside above)
    · exact (of_files_directory home files home).mpr (.inl List.prefix_rfl)
  · intro place file inner above apart
    obtain ⟨text, member⟩ := (is_file_iff _ place).mp file
    exact (of_files_directory home files inner).mpr (.inr ⟨_, member, above, apart⟩)
  · intro place file
    obtain ⟨text, member⟩ := (is_file_iff _ place).mp file
    exact named _ member

end Files

variable (store : Store)

theorem mem_files_below (place relative : Place) :
    relative ∈ store.filesBelow place ↔ ∃ text, (place ++ relative, text) ∈ store.files := by
  simp only [filesBelow, List.mem_mergeSort, List.mem_filterMap]
  constructor
  · rintro ⟨file, member, found⟩
    split at found
    · next above =>
        obtain ⟨rest, whole⟩ := List.isPrefixOf_iff_prefix.mp above
        refine ⟨file.2, ?_⟩
        rw [← Option.some.inj found, ← whole, List.drop_left, whole]
        exact member
    · cases found
  · rintro ⟨text, member⟩
    refine ⟨_, member, ?_⟩
    simp

-- A slash at the end changes nothing for what comes behind it.
theorem walk_without_slash (segments : List String) (start place : Place)
    (walk : segments.foldlM store.enter start = .ok place) :
    (if segments.getLast? = some "" then segments.dropLast else segments).foldlM
      store.enter start = .ok place := by
  split
  · next slash =>
      obtain ⟨before, rfl⟩ := List.getLast?_eq_some_iff.mp slash
      rw [List.foldlM_append] at walk
      rw [List.dropLast_concat]
      cases reached : before.foldlM store.enter start with
      | error e =>
          rw [reached] at walk
          cases walk
      | ok q =>
          rw [reached] at walk
          change [""].foldlM store.enter q = _ at walk
          rw [List.foldlM_cons] at walk
          cases last : store.enter q "" with
          | error e =>
              rw [last] at walk
              cases walk
          | ok next =>
              rw [last] at walk
              cases walk
              exact congrArg Except.ok (enter_leads store q place "" last).2.symm
  · exact walk

theorem walk_names (standing : store.Standing) (place inner : Place) (last : String)
    (named : ∀ name ∈ inner ++ [last], IsName name)
    (passable : ∀ q, q <+: inner → store.isDirectory (place ++ q) = true) :
    (inner ++ [last]).foldlM store.enter place = .ok (place ++ (inner ++ [last])) := by
  have innerNamed : ∀ name ∈ inner, IsName name := fun name member =>
    named name (List.mem_append_left _ member)
  have lastNamed : IsName last := named last (by simp)
  have spelled : Path.spoken inner = inner := Path.spoken_names inner innerNamed
  have directory : store.isDirectory place = true := by simpa using passable [] List.nil_prefix
  have onward : inner.foldlM store.enter place = .ok (place ++ inner) := by
    have walk := enter_all store standing place inner directory (by
      intro q member
      rw [spelled] at member
      obtain ⟨way, before, rfl⟩ := mem_trail_names place q inner innerNamed member
      exact passable way before)
    rwa [spelled, follow_names place inner innerNamed] at walk
  have final : store.enter (place ++ inner) last = .ok (place ++ inner ++ [last]) := by
    rw [enter_name store standing _ (passable inner List.prefix_rfl) last lastNamed.1,
      step_name _ last lastNamed]
  rw [List.foldlM_append, onward]
  change [last].foldlM store.enter (place ++ inner) = _
  rw [List.foldlM_cons, final, ← List.append_assoc]
  rfl

-- Names below a path lead on from where the path leads, through directories to the last one.
theorem resolve_below (standing : store.Standing) (p : Path) (place inner : Place) (last : String)
    (resolves : store.resolve p = .ok place) (named : ∀ name ∈ inner ++ [last], IsName name)
    (passable : ∀ q, q <+: inner → store.isDirectory (place ++ q) = true) :
    store.resolve (p.below (inner ++ [last])) = .ok (place ++ (inner ++ [last])) := by
  obtain ⟨nonempty, walk⟩ := (resolve_ok_iff store p place).mp resolves
  have lastNamed : IsName last := named last (by simp)
  have filled : (inner ++ [last]).isEmpty = false := by cases inner <;> rfl
  have start : (p.below (inner ++ [last])).start store.home = p.start store.home := by
    rw [Path.start, Path.start, Path.below_absolute p _ fun first found =>
      name_nonempty first (named first (List.mem_of_mem_head? found))]
  obtain ⟨before, ends⟩ := Path.below_ends p inner last lastNamed
  apply (resolve_ok_iff store _ _).mpr
  refine ⟨?_, ?_⟩
  · intro single
    have same := congrArg List.getLast? (ends.segments.symm.trans single)
    rw [List.getLast?_concat] at same
    exact name_nonempty last lastNamed (Option.some.inj same)
  · rw [start, Path.below, filled]
    change List.foldlM store.enter _ (_ ++ (inner ++ [last])) = _
    rw [List.foldlM_append, walk_without_slash store p.segments _ place walk]
    exact walk_names store standing place inner last named passable

end FlowDefs.Store
