import Mathlib.Data.List.Perm.Basic
import FlowDefs.Proofs.Conversion.Refinement
import FlowDefs.Proofs.Library.Rules
set_option autoImplicit false

namespace FlowDefs

namespace Catalog

def isBuiltinName (name : String) : Bool := (builtin.library? name).isSome

theorem has_library_iff (catalog : Catalog) (name : String) :
    (catalog.library? name).isSome = true ↔ name ∈ catalog.libraries.map Library.name := by
  simp [library?]

theorem builtin_names_distinct : (builtinLibraries.map Library.name).Nodup := by decide

end Catalog

theorem swap_remove_perm {α : Type} (xs : List α) (i : Fin xs.length) :
    ((swapRemove xs i).1 :: (swapRemove xs i).2).Perm xs := by
  let last := xs.getLast (List.ne_nil_of_length_pos i.pos)
  have filled : xs.set i last ≠ [] := by simpa using List.ne_nil_of_length_pos i.pos
  have kept : (xs.set i last).getLast filled = last := by
    rw [List.getLast_eq_getElem, List.getElem_set]
    split
    · rfl
    · simp only [List.length_set, last, List.getLast_eq_getElem]
  have moved : (last :: (swapRemove xs i).2).Perm (last :: xs.eraseIdx i) := by
    refine .trans ?_ (List.set_perm_cons_eraseIdx i.isLt last)
    conv_rhs => rw [← List.dropLast_concat_getLast filled, kept]
    exact (List.perm_append_singleton ..).symm
  exact (moved.cons_inv.cons _).trans (List.getElem_cons_eraseIdx_perm i.isLt)

namespace Selection

-- What has been selected after some names. The libraries are where they were or selected.
structure Holds (names : List String) (s : Selection) : Prop where
  parts : (s.catalog.libraries ++ s.available).Perm Catalog.builtinLibraries
  once : s.catalog.libraries.map Library.name = (names.filter Catalog.isBuiltinName).eraseDups
  unknown : s.unknown = names.filter fun name => !Catalog.isBuiltinName name

namespace Holds

variable {names : List String} {s : Selection} (holds : s.Holds names)

include holds

theorem known_iff (name : String) : Catalog.isBuiltinName name = true ↔
    name ∈ s.catalog.libraries.map Library.name ∨ name ∈ s.available.map Library.name := by
  rw [Catalog.isBuiltinName, Catalog.has_library_iff, ← List.mem_append, ← List.map_append]
  exact ((holds.parts.map Library.name).mem_iff).symm

theorem apart (name : String) (taken : name ∈ s.catalog.libraries.map Library.name) :
    name ∉ s.available.map Library.name := by
  have distinct := ((holds.parts.map Library.name).nodup_iff).mpr Catalog.builtin_names_distinct
  rw [List.map_append] at distinct
  exact (List.nodup_append'.mp distinct).2.2 taken

theorem taken_iff (name : String) : name ∈ s.catalog.libraries.map Library.name ↔
    name ∈ names ∧ Catalog.isBuiltinName name = true := by
  rw [holds.once, List.mem_eraseDups, List.mem_filter]

end Holds

theorem take_holds (names : List String) (s : Selection) (name : String) (holds : s.Holds names) :
    (s.take name).Holds (names ++ [name]) := by
  unfold take
  cases found : s.available.findFinIdx? fun lib => lib.name = name with
  | some i =>
      have named : s.available[i].name = name :=
        of_decide_eq_true (List.findFinIdx?_eq_some_iff.mp found).1
      have free : name ∈ s.available.map Library.name :=
        named ▸ List.mem_map_of_mem (List.getElem_mem i.isLt)
      have known := (holds.known_iff name).mpr (.inr free)
      have fresh : ¬ (names.filter Catalog.isBuiltinName).contains name = true := by
        intro listed
        have taken := (holds.taken_iff name).mpr (List.mem_filter.mp (List.contains_iff_mem.mp listed))
        exact holds.apart name taken free
      refine ⟨?_, ?_, ?_⟩
      · refine .trans ?_ holds.parts
        dsimp only [Catalog.add]
        rw [List.append_assoc]
        exact (swap_remove_perm s.available i).append_left s.catalog.libraries
      · rw [List.filter_append, List.filter_cons_of_pos known, List.filter_nil, erase_dups_concat,
          if_neg fresh, ← holds.once]
        dsimp only [Catalog.add]
        rw [List.map_append]
        exact congrArg (_ ++ [·]) named
      · simpa [List.filter_singleton, known] using holds.unknown
  | none =>
      dsimp only
      have missing : name ∉ s.available.map Library.name := by
        simpa using List.findFinIdx?_eq_none_iff.mp found
      split
      · next old =>
          obtain ⟨mentioned, known⟩ :=
            (holds.taken_iff name).mp ((Catalog.has_library_iff s.catalog name).mp old)
          have listed : (names.filter Catalog.isBuiltinName).contains name = true := by
            simp [mentioned, known]
          refine ⟨holds.parts, ?_, ?_⟩
          · rw [List.filter_append, List.filter_cons_of_pos known, List.filter_nil,
              erase_dups_concat, if_pos listed]
            exact holds.once
          · simpa [List.filter_singleton, known] using holds.unknown
      · next new =>
          rw [Catalog.has_library_iff] at new
          have strange : Catalog.isBuiltinName name = false := by
            rw [← Bool.not_eq_true, holds.known_iff]
            exact not_or.mpr ⟨new, missing⟩
          refine ⟨holds.parts, ?_, ?_⟩
          · simpa [List.filter_singleton, strange] using holds.once
          · simpa [List.filter_singleton, strange] using holds.unknown

theorem take_all_holds (done names : List String) (s : Selection) (holds : s.Holds done) :
    (names.foldl take s).Holds (done ++ names) := by
  induction names generalizing done s with
  | nil => simpa using holds
  | cons name names ih => simpa using ih (done ++ [name]) (s.take name) (take_holds done s name holds)

end Selection

namespace Catalog

theorem select_holds (names : List String) :
    (names.foldl Selection.take ⟨.empty, builtinLibraries, []⟩).Holds names :=
  Selection.take_all_holds [] names _ ⟨.refl _, rfl, rfl⟩

theorem select_builtin (names : List String) :
    ∀ lib ∈ (select names).1.libraries, lib ∈ builtinLibraries :=
  fun _ member => (select_holds names).parts.subset (List.mem_append_left _ member)

theorem select_rules (names : List String) (r : Rule) (member : r ∈ (select names).1.rules) :
    r ∈ builtin.rules := by
  obtain ⟨lib, listed, answer⟩ := List.mem_flatMap.mp member
  exact List.mem_flatMap.mpr ⟨lib, select_builtin names lib listed, answer⟩

theorem mem_select_iff (names : List String) (lib : Library) :
    lib ∈ (select names).1.libraries ↔ lib ∈ builtinLibraries ∧ lib.name ∈ names := by
  have named := (select_holds names).taken_iff
  constructor
  · intro member
    exact ⟨select_builtin names lib member, ((named lib.name).mp (List.mem_map_of_mem member)).1⟩
  · rintro ⟨known, mentioned⟩
    have listed : lib.name ∈ builtin.libraries.map Library.name := List.mem_map_of_mem known
    obtain ⟨other, member, same⟩ := List.mem_map.mp
      ((named lib.name).mpr ⟨mentioned, (has_library_iff builtin lib.name).mpr listed⟩)
    have only := List.inj_on_of_nodup_map builtin_names_distinct (select_builtin names other member)
      known same
    exact only ▸ member

-- Libraries of which no two claim the same module, namespace or global name.
structure Separate (libraries : List Library) : Prop where
  modules : ∀ a ∈ libraries, ∀ b ∈ libraries, ∀ module : String,
    a.modules.contains module = true → b.modules.contains module = true → a = b
  namespaces : ∀ a ∈ libraries, ∀ b ∈ libraries, ∀ name : String,
    a.namespaces.contains name = true → b.namespaces.contains name = true → a = b
  globals : ∀ a ∈ libraries, ∀ b ∈ libraries, ∀ (segments : List String) (left right : Rule),
    a.globals.lookup segments = some left → b.globals.lookup segments = some right → left = right

theorem resolve_of_members (catalog other : Catalog) (separate : Separate catalog.libraries)
    (same : ∀ lib, lib ∈ catalog.libraries ↔ lib ∈ other.libraries) :
    catalog.resolve = other.resolve := by
  have modules (module : String) : catalog.moduleTable? module = other.moduleTable? module := by
    unfold moduleTable?
    rw [find_of_members _ _ _ same fun a left b right => separate.modules a left b right module]
  have namespaces (name : String) : catalog.namespaceTable? name = other.namespaceTable? name := by
    unfold namespaceTable?
    rw [find_of_members _ _ _ same fun a left b right => separate.namespaces a left b right name]
  have globals (segments : List String) : catalog.globalRule? segments = other.globalRule? segments :=
    find_some_of_members _ _ _ same fun a left b right => separate.globals a left b right segments
  funext bindings name
  simp only [resolve, importedRule?, modules, namespaces, globals]

theorem builtin_separate : Separate builtinLibraries := by
  constructor
  · intro a left b right module inA inB
    rcases List.mem_pair.mp left with rfl | rfl <;> rcases List.mem_pair.mp right with rfl | rfl
    · rfl
    · simp [React.library, ReactNative.library] at inA inB
      simp [inA] at inB
    · simp [React.library, ReactNative.library] at inA inB
      simp [inA] at inB
    · rfl
  · intro a left b right name inA inB
    rcases List.mem_pair.mp left with rfl | rfl <;> rcases List.mem_pair.mp right with rfl | rfl
    · rfl
    · simp [ReactNative.library] at inB
    · simp [ReactNative.library] at inA
    · rfl
  · intro a left b right segments r s inA inB
    have no (rule : Rule) : ReactNative.library.globals.lookup segments ≠ some rule := by
      intro found
      have answer := ReactNative.library.globals.lookup_mem_answers segments rule found
      cases answer
    rcases List.mem_pair.mp left with rfl | rfl
    · rcases List.mem_pair.mp right with rfl | rfl
      · exact Option.some.inj (inA.symm.trans inB)
      · exact absurd inB (no s)
    · exact absurd inA (no r)

theorem select_separate (names : List String) : Separate (select names).1.libraries := by
  have known := select_builtin names
  exact ⟨fun a left b right => builtin_separate.modules a (known a left) b (known b right),
    fun a left b right => builtin_separate.namespaces a (known a left) b (known b right),
    fun a left b right => builtin_separate.globals a (known a left) b (known b right)⟩

end Catalog

-- A conversion asks its catalog for nothing but the rules of names.
theorem convert_all_of_resolve (catalog other : Catalog) (same : catalog.resolve = other.resolve)
    (session : Session) (statements : List SourceStatement) :
    session.convertAll catalog statements = session.convertAll other statements := by
  induction statements generalizing session with
  | nil => rfl
  | cons s statements ih =>
      have first : session.convert catalog s = session.convert other s := by
        simp only [Session.convert_eq, same]
      simp only [Session.convertAll, first, ih]

theorem convert_file_of_resolve (catalog other : Catalog) (same : catalog.resolve = other.resolve)
    (name : String) (root : Node) : convertFile catalog name root = convertFile other name root := by
  simp only [convertFile, convert_all_of_resolve catalog other same]

namespace Catalog

theorem selections_agree (names others : List String)
    (same : ∀ name, isBuiltinName name = true → (name ∈ names ↔ name ∈ others)) :
    (select names).1.resolve = (select others).1.resolve := by
  apply resolve_of_members _ _ (select_separate names)
  intro lib
  rw [mem_select_iff, mem_select_iff]
  apply and_congr_right
  intro known
  exact same lib.name ((has_library_iff builtin lib.name).mpr (List.mem_map_of_mem known))

theorem full_selection_agrees (names : List String)
    (full : ∀ lib ∈ builtinLibraries, lib.name ∈ names) :
    (select names).1.resolve = builtin.resolve := by
  apply resolve_of_members _ _ (select_separate names)
  intro lib
  rw [mem_select_iff]
  exact and_iff_left_of_imp (full lib)

end Catalog

-- A selection is the set of the built-in names it mentions.
theorem selection_by_names (names : List String) :
    let selected := Catalog.select names
    selected.1.libraries.map Library.name = (names.filter Catalog.isBuiltinName).eraseDups ∧
      (∀ lib ∈ selected.1.libraries, lib ∈ Catalog.builtinLibraries) ∧
      selected.2 = names.filter (fun name => !Catalog.isBuiltinName name) ∧
      (∀ others : List String,
        (∀ name, Catalog.isBuiltinName name = true → (name ∈ names ↔ name ∈ others)) →
          (∀ bindings name, selected.1.resolve bindings name =
            (Catalog.select others).1.resolve bindings name) ∧
          ∀ file root, convertFile selected.1 file root =
            convertFile (Catalog.select others).1 file root) ∧
      ((∀ lib ∈ Catalog.builtinLibraries, lib.name ∈ names) →
        ∀ file root, convertFile selected.1 file root = convertFile .builtin file root) := by
  have holds := Catalog.select_holds names
  refine ⟨holds.once, Catalog.select_builtin names, holds.unknown, ?_, ?_⟩
  · intro others same
    have agree := Catalog.selections_agree names others same
    exact ⟨fun bindings name => by rw [agree], convert_file_of_resolve _ _ agree⟩
  · intro full
    exact convert_file_of_resolve _ _ (Catalog.full_selection_agrees names full)

def mentionedNames : List String := ["react-native", "vue", "react", "react-native", "vue"]

theorem repeated_mentions_count_once :
    (Catalog.select mentionedNames).1.libraries.map Library.name = ["react-native", "react"] ∧
      (Catalog.select mentionedNames).2 = ["vue", "vue"] ∧
      ∀ file root, convertFile (Catalog.select mentionedNames).1 file root =
          convertFile (Catalog.select ["react", "react-native"]).1 file root ∧
        convertFile (Catalog.select mentionedNames).1 file root = convertFile .builtin file root := by
  obtain ⟨once, -, unknown, agree, full⟩ := selection_by_names mentionedNames
  have same (name : String) (known : Catalog.isBuiltinName name = true) :
      name ∈ mentionedNames ↔ name ∈ ["react", "react-native"] := by
    have listed := (Catalog.has_library_iff .builtin name).mp known
    rcases List.mem_pair.mp listed with rfl | rfl
    · exact ⟨by decide, by decide⟩
    · exact ⟨by decide, by decide⟩
  have every : ∀ lib ∈ Catalog.builtinLibraries, lib.name ∈ mentionedNames := by decide
  refine ⟨once.trans (by decide +kernel), unknown.trans (by decide +kernel), ?_⟩
  exact fun file root => ⟨(agree _ same).2 file root, full every file root⟩

end FlowDefs
