import Mathlib.Data.List.Nodup
import FlowDefs.Library.Rule
import FlowDefs.Proofs.Lists
import FlowDefs.Declaration
set_option autoImplicit false

namespace FlowDefs

-- By the first code point in which they differ; a text comes before those that go on with it.
def CodeOrdered : List Char → List Char → Prop
  | [], _ => True
  | _ :: _, [] => False
  | c :: cs, d :: ds => c.toNat < d.toNat ∨ c = d ∧ CodeOrdered cs ds

-- The instance is named: it is the order of texts, and lists have another one beside it.
theorem code_ordered_of_le (cs ds : List Char) (ordered : @LE.le (List Char) List.instLE cs ds) :
    CodeOrdered cs ds := by
  induction cs generalizing ds with
  | nil => trivial
  | cons c cs ih =>
      cases ds with
      | nil => exact absurd ordered (by simp)
      | cons d ds =>
          rcases List.cons_le_cons_iff.mp ordered with less | ⟨rfl, rest⟩
          · exact .inl (UInt32.lt_iff_toNat_lt.mp less)
          · exact .inr ⟨rfl, ih ds rest⟩

theorem assign_keys {α : Type} (name : String) (value : α) (entries : List (String × α))
    (distinct : (entries.map Prod.fst).Nodup) : ((assign name value entries).map Prod.fst).Nodup := by
  rw [assign, List.map_cons, List.nodup_cons]
  refine ⟨?_, distinct.sublist (List.filter_sublist.map Prod.fst)⟩
  intro member
  obtain ⟨entry, listed, same⟩ := List.mem_map.mp member
  exact of_decide_eq_true (List.mem_filter.mp listed).2 same

theorem lookup_mem_iff {α : Type} (entries : List (String × α)) (name : String) (value : α)
    (distinct : (entries.map Prod.fst).Nodup) :
    entries.lookup name = some value ↔ (name, value) ∈ entries := by
  refine ⟨mem_of_lookup entries name value, fun member => ?_⟩
  obtain ⟨before, after, rfl⟩ := List.append_of_mem member
  refine List.lookup_eq_some_iff.mpr ⟨before, after, rfl, fun entry earlier => ?_⟩
  rw [List.map_append, List.nodup_append] at distinct
  have other := distinct.2.2 entry.1 (List.mem_map_of_mem earlier) name List.mem_cons_self
  simpa using other.symm

theorem lookup_map_values {α β : Type} (f : α → β) (entries : List (String × α)) (name : String) :
    (entries.map fun entry => (entry.1, f entry.2)).lookup name = (entries.lookup name).map f := by
  induction entries with
  | nil => rfl
  | cons entry entries ih =>
      rw [List.map_cons, List.lookup_cons, List.lookup_cons, ih]
      cases name == entry.1 <;> rfl

namespace Table

-- All tables there are, whatever stands in their namespaces and whatever was replaced.
inductive Built : Table → Prop where
  | empty : Built .empty
  | withRule (t : Table) (name : String) (rule : Rule) (built : Built t) :
      Built (t.withRule name rule)
  | withNamespace (t inner : Table) (name : String) (built : Built t) (within : Built inner) :
      Built (t.withNamespace name inner)

def names (t : Table) : List String := t.rules.map Prod.fst

structure Keyed (t : Table) : Prop where
  rules : t.names.Nodup
  namespaces : (t.namespaces.map Prod.fst).Nodup
  inner : ∀ entry ∈ t.namespaces, entry.2.names.Nodup

theorem built_keyed (t : Table) (built : t.Built) : t.Keyed := by
  induction built with
  | empty => exact ⟨List.nodup_nil, List.nodup_nil, nofun⟩
  | withRule t name rule _ ih => exact ⟨assign_keys name rule t.rules ih.rules, ih.namespaces, ih.inner⟩
  | withNamespace t inner name _ _ ih within =>
      refine ⟨ih.rules, assign_keys name inner t.namespaces ih.namespaces, fun entry member => ?_⟩
      rcases List.mem_cons.mp member with rfl | old
      · exact within.rules
      · exact ih.inner entry (List.mem_filter.mp old).1

-- The rules of the table and of its namespaces, each by the path to it.
def paths (t : Table) : List (List String) :=
  t.names.map (fun name => [name]) ++
    t.namespaces.flatMap fun entry => entry.2.names.map fun name => [entry.1, name]

variable (t : Table)

theorem paths_nodup (keyed : t.Keyed) : t.paths.Nodup := by
  rw [paths, List.nodup_append]
  have single : Function.Injective fun name : String => [name] := fun a b same =>
    (List.cons.inj same).1
  have double (space : String) : Function.Injective fun name : String => [space, name] :=
    fun a b same => (List.cons.inj (List.cons.inj same).2).1
  refine ⟨keyed.rules.map single, ?_, ?_⟩
  · rw [List.nodup_flatMap]
    refine ⟨fun entry member => ?_, ?_⟩
    · exact (keyed.inner entry member).map (double entry.1)
    · refine (List.pairwise_map.mp keyed.namespaces).imp fun other => ?_
      intro path left right
      obtain ⟨a, -, rfl⟩ := List.mem_map.mp left
      obtain ⟨b, -, same⟩ := List.mem_map.mp right
      exact other (List.cons.inj same).1.symm
  · rintro path own other nested rfl
    obtain ⟨name, -, rfl⟩ := List.mem_map.mp own
    obtain ⟨entry, -, inside⟩ := List.mem_flatMap.mp nested
    obtain ⟨other, -, same⟩ := List.mem_map.mp inside
    cases same

theorem mem_paths_iff (keyed : t.Keyed) (path : List String) :
    path ∈ t.paths ↔ (t.lookup path).isSome = true := by
  have named (rules : List (String × Rule)) (name : String) :
      name ∈ rules.map Prod.fst ↔ (rules.lookup name).isSome = true := by
    rw [List.lookup_isSome_iff, List.mem_map]
    simp only [beq_iff_eq, @eq_comm _ name]
  rw [paths, List.mem_append, List.mem_map, List.mem_flatMap]
  simp only [List.mem_map]
  rcases path with _ | ⟨space, _ | ⟨name, _ | ⟨third, rest⟩⟩⟩
  · simp [lookup]
  · simp [lookup, get?, ← named, names]
  · rw [lookup, Option.isSome_bind]
    constructor
    · rintro (⟨single, -, same⟩ | ⟨entry, listed, member, inside, same⟩)
      · cases same
      · cases same
        rw [(lookup_mem_iff t.namespaces entry.1 entry.2 keyed.namespaces).mpr listed]
        exact (named entry.2.rules name).mp inside
    · intro found
      cases known : t.namespaces.lookup space with
      | none =>
          rw [known] at found
          cases found
      | some inner =>
          rw [known] at found
          exact .inr ⟨(space, inner), mem_of_lookup t.namespaces space inner known, name,
            (named inner.rules name).mpr found, rfl⟩
  · simp [lookup]

theorem path_short (path : List String) (listed : path ∈ t.paths) :
    path.length = 1 ∨ path.length = 2 := by
  rcases List.mem_append.mp listed with own | nested
  · obtain ⟨name, -, rfl⟩ := List.mem_map.mp own
    exact .inl rfl
  · obtain ⟨entry, -, inside⟩ := List.mem_flatMap.mp nested
    obtain ⟨name, -, rfl⟩ := List.mem_map.mp inside
    exact .inr rfl

theorem rule_names_perm : t.ruleNames.Perm (t.paths.map (Text.join ".")) := by
  have spelled : t.paths.map (Text.join ".") = t.rules.map Prod.fst ++
      t.namespaces.flatMap fun entry =>
        entry.2.rules.map fun rule => entry.1 ++ "." ++ rule.1 := by
    simp [paths, names, Text.join, List.map_flatMap, Function.comp_def]
  rw [spelled]
  exact List.mergeSort_perm _ _

theorem rule_names_ordered :
    t.ruleNames.Pairwise fun a b => CodeOrdered a.toList b.toList := by
  rw [ruleNames, sortNames]
  refine (List.pairwise_mergeSort ?_ ?_ _).imp fun ordered => ?_
  · intro a b c first second
    exact decide_eq_true (String.le_trans (of_decide_eq_true first) (of_decide_eq_true second))
  · intro a b
    simpa using String.le_total a b
  · exact code_ordered_of_le _ _ (of_decide_eq_true ordered)

-- The table without what stands in the namespaces of its namespaces.
def shallow : Table :=
  ⟨t.rules, t.namespaces.map fun entry => (entry.1, ⟨entry.2.rules, []⟩)⟩

theorem shallow_lookup (path : List String) : t.shallow.lookup path = t.lookup path := by
  rcases path with _ | ⟨space, _ | ⟨name, _ | ⟨third, rest⟩⟩⟩
  · rfl
  · rfl
  · have inner := lookup_map_values (fun inner : Table => (⟨inner.rules, []⟩ : Table)) t.namespaces
      space
    rw [lookup, lookup, shallow, inner]
    cases t.namespaces.lookup space <;> rfl
  · rfl

theorem shallow_rule_names : t.shallow.ruleNames = t.ruleNames := by
  simp [ruleNames, shallow, List.flatMap_map]

end Table

-- The listed names in their order and the paths with an answer; nothing deeper counts for either.
theorem table_lists_answers (t : Table) (built : t.Built) :
    (t.ruleNames.Pairwise fun a b => CodeOrdered a.toList b.toList) ∧
      (∃ paths : List (List String), paths.Nodup ∧
        (∀ path, path ∈ paths ↔ (t.lookup path).isSome = true) ∧
        (∀ path ∈ paths, path.length = 1 ∨ path.length = 2) ∧
        t.ruleNames.Perm (paths.map (Text.join "."))) ∧
      (∀ path, t.shallow.lookup path = t.lookup path) ∧ t.shallow.ruleNames = t.ruleNames :=
  have keyed := t.built_keyed built
  ⟨t.rule_names_ordered,
    ⟨t.paths, t.paths_nodup keyed, t.mem_paths_iff keyed, t.path_short, t.rule_names_perm⟩,
    t.shallow_lookup, t.shallow_rule_names⟩

-- A name that is a rule and a namespace, which replaces an earlier one and holds another namespace.
def spacedTable : Table :=
  let value := Table.empty.withRule "Value" (.expand .component)
  let other := Table.empty.withRule "Other" (.expand .component)
  ((Table.empty.withRule "NS" (.expand .reactElement)).withNamespace "NS" other).withNamespace "NS"
    (value.withNamespace "Deeper" value)

theorem spaced_built : spacedTable.Built :=
  .withNamespace _ _ _ (.withNamespace _ _ _ (.withRule _ _ _ .empty) (.withRule _ _ _ .empty))
    (.withNamespace _ _ _ (.withRule _ _ _ .empty) (.withRule _ _ _ .empty))

theorem spaced_names_listed : spacedTable.Built ∧
    ∃ paths : List (List String), paths.Nodup ∧ ["NS"] ∈ paths ∧ ["NS", "Value"] ∈ paths ∧
      ["NS", "Other"] ∉ paths ∧ ["NS", "Deeper", "Value"] ∉ paths ∧
      spacedTable.ruleNames.Perm (paths.map (Text.join ".")) ∧
      spacedTable.ruleNames.length = 2 := by
  obtain ⟨-, ⟨paths, distinct, known, -, listed⟩, -⟩ := table_lists_answers spacedTable spaced_built
  refine ⟨spaced_built, paths, distinct, ?_, ?_, ?_, ?_, listed, ?_⟩
  · exact (known _).mpr (by decide)
  · exact (known _).mpr (by decide)
  · exact fun member => absurd ((known _).mp member) (by decide)
  · exact fun member => absurd ((known _).mp member) (by decide)
  · rw [Table.ruleNames, Table.sortNames, List.length_mergeSort]
    decide

end FlowDefs
