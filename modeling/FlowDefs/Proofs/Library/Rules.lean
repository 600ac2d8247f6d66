import Mathlib.Data.List.Nodup
import FlowDefs.Library.Builtin
import FlowDefs.Proofs.Lists
set_option autoImplicit false

namespace FlowDefs

namespace Table

def ownRules (t : Table) : List Rule := t.rules.map Prod.snd

-- The rules of the table and of the tables one level below it.
def answers (t : Table) : List Rule :=
  t.ownRules ++ t.namespaces.flatMap fun entry => entry.2.ownRules

theorem get_mem_own (t : Table) (name : String) (rule : Rule) (found : t.get? name = some rule) :
    rule ∈ t.ownRules :=
  List.mem_map_of_mem (f := Prod.snd) (mem_of_lookup t.rules name rule found)

theorem own_mem_answers (t : Table) (rule : Rule) (own : rule ∈ t.ownRules) : rule ∈ t.answers :=
  List.mem_append_left _ own

theorem lookup_mem_answers (t : Table) (segments : List String) (rule : Rule)
    (found : t.lookup segments = some rule) : rule ∈ t.answers := by
  unfold lookup at found
  split at found
  · exact own_mem_answers t rule (get_mem_own t _ rule found)
  · next space name =>
      obtain ⟨inner, listed, found⟩ := Option.bind_eq_some_iff.mp found
      have member := mem_of_lookup t.namespaces space inner listed
      exact List.mem_append_right _
        (List.mem_flatMap.mpr ⟨(space, inner), member, get_mem_own inner name rule found⟩)
  · cases found

theorem own_with_rule (t : Table) (name : String) (rule r : Rule)
    (member : r ∈ (t.withRule name rule).ownRules) : r = rule ∨ r ∈ t.ownRules := by
  obtain ⟨entry, listed, rfl⟩ := List.mem_map.mp member
  rcases List.mem_cons.mp listed with rfl | old
  · exact .inl rfl
  · exact .inr (List.mem_map_of_mem (List.mem_filter.mp old).1)

theorem own_with_rules (names : List String) (rule : String → Rule) (t : Table) (r : Rule)
    (member : r ∈ (names.foldl (fun t name => t.withRule name (rule name)) t).ownRules) :
    (∃ name ∈ names, r = rule name) ∨ r ∈ t.ownRules := by
  induction names generalizing t with
  | nil => exact .inr member
  | cons name names ih =>
      rcases ih (t.withRule name (rule name)) member with ⟨later, listed, same⟩ | old
      · exact .inl ⟨later, List.mem_cons_of_mem name listed, same⟩
      · rcases own_with_rule t name (rule name) r old with same | old
        · exact .inl ⟨name, by simp, same⟩
        · exact .inr old

theorem namespaces_with_rules (names : List String) (rule : String → Rule) (t : Table) :
    (names.foldl (fun t name => t.withRule name (rule name)) t).namespaces = t.namespaces := by
  induction names generalizing t with
  | nil => rfl
  | cons name names ih => exact ih (t.withRule name (rule name))

theorem answers_with_namespace (t inner : Table) (name : String) (r : Rule)
    (member : r ∈ (t.withNamespace name inner).answers) : r ∈ t.answers ∨ r ∈ inner.ownRules := by
  rcases List.mem_append.mp member with own | nested
  · exact .inl (own_mem_answers t r own)
  · obtain ⟨entry, listed, inside⟩ := List.mem_flatMap.mp nested
    rcases List.mem_cons.mp listed with rfl | old
    · exact .inr inside
    · exact .inl (List.mem_append_right _
        (List.mem_flatMap.mpr ⟨entry, (List.mem_filter.mp old).1, inside⟩))

end Table

namespace Catalog

def rules (catalog : Catalog) : List Rule :=
  catalog.libraries.flatMap fun lib => lib.table.answers ++ lib.globals.answers

theorem table_rule_mem (catalog : Catalog) (p : Library → Bool) (table : Table) (r : Rule)
    (found : (catalog.libraries.find? p).map Library.table = some table)
    (answer : r ∈ table.answers) : r ∈ catalog.rules := by
  obtain ⟨lib, listed, rfl⟩ := Option.map_eq_some_iff.mp found
  exact List.mem_flatMap.mpr
    ⟨lib, List.mem_of_find?_eq_some listed, List.mem_append_left _ answer⟩

theorem member_rule_mem (table : Table) (segments : List String) (r : Rule)
    (found : memberRule? table segments = some r) : r ∈ table.answers := by
  unfold memberRule? at found
  split at found
  · exact table.own_mem_answers r (table.get_mem_own _ r found)
  · cases found

theorem imported_rule_mem (catalog : Catalog) (binding : Binding) (rest : List String) (r : Rule)
    (found : catalog.importedRule? binding rest = some r) : r ∈ catalog.rules := by
  unfold importedRule? at found
  split at found
  · cases found
  · next table listed =>
      apply table_rule_mem catalog _ table r listed
      split at found
      · exact member_rule_mem table rest r found
      · exact table.lookup_mem_answers _ r found

theorem global_rule_mem (catalog : Catalog) (segments : List String) (r : Rule)
    (found : catalog.globalRule? segments = some r) : r ∈ catalog.rules := by
  obtain ⟨lib, listed, found⟩ := List.exists_of_findSome?_eq_some found
  exact List.mem_flatMap.mpr
    ⟨lib, listed, List.mem_append_right _ (lib.globals.lookup_mem_answers segments r found)⟩

theorem resolve_mem (catalog : Catalog) (bindings : Bindings) (name : QualifiedName) (r : Rule)
    (found : catalog.resolve bindings name = some r) : r ∈ catalog.rules := by
  unfold resolve at found
  split at found
  · cases found
  · next head rest _ =>
      split at found
      · exact imported_rule_mem catalog _ rest r found
      · split at found
        · exact global_rule_mem catalog _ r found
        · split at found
          · next table listed =>
              exact table_rule_mem catalog _ table r listed (member_rule_mem table rest r found)
          · exact global_rule_mem catalog _ r found

end Catalog

namespace React

def names : List String := "JSX$Element" :: substituted

theorem table_answers (r : Rule) (member : r ∈ table.answers) :
    (∃ e, r = .expand e) ∨ ∃ name ∈ names, r = substitute name := by
  rcases Table.answers_with_namespace _ jsx "JSX" r member with outer | inner
  · rcases List.mem_append.mp outer with own | nested
    · rcases Table.own_with_rules substituted substitute expansions r own with
        ⟨name, listed, rfl⟩ | old
      · exact .inr ⟨name, List.mem_cons_of_mem _ listed, rfl⟩
      · rcases Table.own_with_rule _ _ _ r old with rfl | old
        · exact .inl ⟨_, rfl⟩
        · rcases Table.own_with_rule _ _ _ r old with rfl | old
          · exact .inl ⟨_, rfl⟩
          · cases old
    · rw [Table.namespaces_with_rules] at nested
      cases nested
  · rcases Table.own_with_rule _ _ _ r inner with rfl | old
    · exact .inr ⟨_, List.mem_cons_self, rfl⟩
    · cases old

theorem globals_answers (r : Rule) (member : r ∈ library.globals.answers) :
    ∃ name ∈ names, r = substitute name := by
  rcases Table.answers_with_namespace _ jsx "JSX" r member with outer | inner
  · cases outer
  · rcases Table.own_with_rule _ _ _ r inner with rfl | old
    · exact ⟨_, List.mem_cons_self, rfl⟩
    · cases old

end React

namespace ReactNative

def entries : List (String × String) :=
  names.map (fun name => ("", name)) ++ animated.map fun name => ("Animated$", name)

theorem suffixes_distinct : (entries.map fun e => e.1 ++ e.2).Nodup := by decide +kernel

theorem table_answers (r : Rule) (member : r ∈ table.answers) :
    ∃ e ∈ entries, r = substitute e.1 e.2 := by
  rcases Table.answers_with_namespace _ _ "Animated" r member with outer | inner
  · rcases List.mem_append.mp outer with own | nested
    · rcases Table.own_with_rules names (substitute "") .empty r own with ⟨name, listed, rfl⟩ | old
      · exact ⟨("", name), List.mem_append_left _ (List.mem_map_of_mem listed), rfl⟩
      · cases old
    · unfold withSubstitutes at nested
      rw [Table.namespaces_with_rules] at nested
      cases nested
  · rcases Table.own_with_rules animated (substitute "Animated$") .empty r inner with
      ⟨name, listed, rfl⟩ | old
    · exact ⟨("Animated$", name), List.mem_append_right _ (List.mem_map_of_mem listed), rfl⟩
    · cases old

end ReactNative

namespace Catalog

theorem builtin_rules (r : Rule) (member : r ∈ builtin.rules) :
    (∃ e, r = .expand e) ∨ (∃ name ∈ React.names, r = React.substitute name) ∨
      ∃ e ∈ ReactNative.entries, r = ReactNative.substitute e.1 e.2 := by
  obtain ⟨lib, listed, answer⟩ := List.mem_flatMap.mp member
  rcases List.mem_cons.mp listed with rfl | listed
  · rcases List.mem_append.mp answer with table | globals
    · rcases React.table_answers r table with expansion | substitute
      · exact .inl expansion
      · exact .inr (.inl substitute)
    · exact .inr (.inl (React.globals_answers r globals))
  · rw [List.mem_singleton.mp listed] at answer
    rcases List.mem_append.mp answer with table | globals
    · exact .inr (.inr (ReactNative.table_answers r table))
    · cases globals

theorem react_local_ne_native (name space other : String) :
    "$tsflower_subst$React$" ++ name ≠ "$tsflower_subst$RN$" ++ space ++ other := by
  intro same
  have letters := congrArg (fun text => text.toList[17]?) same
  simp at letters

theorem builtin_local_names (s t : Substitution) (first : .substitute s ∈ builtin.rules)
    (second : .substitute t ∈ builtin.rules) (same : s.localName = t.localName) : s = t := by
  rcases builtin_rules _ first with ⟨_, no⟩ | ⟨name, -, left⟩ | ⟨e, listed, left⟩
  · cases no
  · cases left
    rcases builtin_rules _ second with ⟨_, no⟩ | ⟨other, -, right⟩ | ⟨e, listed, right⟩
    · cases no
    · cases right
      rw [(String.append_right_inj _).mp same]
    · cases right
      exact absurd same (react_local_ne_native name e.1 e.2)
  · cases left
    rcases builtin_rules _ second with ⟨_, no⟩ | ⟨other, -, right⟩ | ⟨f, other, right⟩
    · cases no
    · cases right
      exact absurd same.symm (react_local_ne_native other e.1 e.2)
    · cases right
      have suffixes : e.1 ++ e.2 = f.1 ++ f.2 := by
        rw [String.append_assoc, String.append_assoc] at same
        exact (String.append_right_inj _).mp same
      rw [List.inj_on_of_nodup_map ReactNative.suffixes_distinct listed other suffixes]

end Catalog

end FlowDefs
