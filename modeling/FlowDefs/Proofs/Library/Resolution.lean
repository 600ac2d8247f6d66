import FlowDefs.Library.Builtin
set_option autoImplicit false

namespace FlowDefs

-- The first library in order with a property.
def Catalog.First (catalog : Catalog) (p : Library → Prop) (lib : Library) : Prop :=
  ∃ before after : List Library,
    catalog.libraries = before ++ lib :: after ∧ p lib ∧ ∀ other ∈ before, ¬ p other

-- Other nested tables below the tables that imports and namespaces refer to.
def Catalog.nesting (catalog : Catalog) (nested : Library → List (String × Table)) : Catalog :=
  ⟨catalog.libraries.map fun lib => { lib with table := ⟨lib.table.rules, nested lib⟩ }⟩

theorem Table.lookup_long (table : Table) (segments : List String) (long : 3 ≤ segments.length) :
    table.lookup segments = none := by
  match segments with
  | [] => cases long
  | [_] => simp at long
  | [_, _] => simp at long
  | _ :: _ :: _ :: _ => rfl

namespace Catalog

theorem member_rule_iff (table : Table) (rest : List String) (rule : Rule) :
    memberRule? table rest = some rule ↔
      ∃ member : String, rest = [member] ∧ table.get? member = some rule := by
  match rest with
  | [] => simp [memberRule?]
  | [member] => simp [memberRule?]
  | _ :: _ :: _ => simp [memberRule?]

section Search

variable (catalog : Catalog)

theorem find_first_iff (p : Library → Bool) (lib : Library) :
    catalog.libraries.find? p = some lib ↔ catalog.First (fun l => p l = true) lib := by
  simp [List.find?_eq_some_iff_append, First, and_left_comm]

theorem module_table_first (module : String) (lib : Library)
    (first : catalog.First (fun l => module ∈ l.modules) lib) :
    catalog.moduleTable? module = some lib.table := by
  rw [moduleTable?, (catalog.find_first_iff _ lib).mpr (by simpa using first), Option.map_some]

theorem module_table_none_iff (module : String) :
    catalog.moduleTable? module = none ↔ ∀ lib ∈ catalog.libraries, module ∉ lib.modules := by
  simp [moduleTable?]

theorem namespace_table_first (name : String) (lib : Library)
    (first : catalog.First (fun l => name ∈ l.namespaces) lib) :
    catalog.namespaceTable? name = some lib.table := by
  rw [namespaceTable?, (catalog.find_first_iff _ lib).mpr (by simpa using first), Option.map_some]

theorem namespace_table_none_iff (name : String) :
    catalog.namespaceTable? name = none ↔ ∀ lib ∈ catalog.libraries, name ∉ lib.namespaces := by
  simp [namespaceTable?]

theorem global_rule_iff (segments : List String) (rule : Rule) :
    catalog.globalRule? segments = some rule ↔
      ∃ lib : Library, catalog.First (fun l => (l.globals.lookup segments).isSome = true) lib ∧
        lib.globals.lookup segments = some rule := by
  rw [globalRule?, List.findSome?_eq_some_iff]
  constructor
  · rintro ⟨before, lib, after, split, found, fails⟩
    have holds : (lib.globals.lookup segments).isSome = true := by rw [found]; rfl
    exact ⟨lib, ⟨before, after, split, holds, by simpa using fails⟩, found⟩
  · rintro ⟨lib, ⟨before, after, split, -, fails⟩, found⟩
    exact ⟨before, lib, after, split, found, by simpa using fails⟩

end Search

section Resolve

variable (catalog : Catalog) (bindings : Bindings) (head : String) (rest : List String)

theorem resolve_bound (binding : Binding) (bound : bindings.get? head = some binding) :
    catalog.resolve bindings ⟨head :: rest⟩ = catalog.importedRule? binding rest := by
  simp only [resolve, bound]

theorem resolve_declared (table : Table) (free : bindings.get? head = none) (longer : rest ≠ [])
    (declared : catalog.namespaceTable? head = some table) :
    catalog.resolve bindings ⟨head :: rest⟩ = memberRule? table rest := by
  simp only [resolve, free, declared, List.isEmpty_iff, if_neg longer]

theorem resolve_global (free : bindings.get? head = none)
    (undeclared : rest = [] ∨ catalog.namespaceTable? head = none) :
    catalog.resolve bindings ⟨head :: rest⟩ = catalog.globalRule? (head :: rest) := by
  rcases undeclared with rfl | none
  · simp [resolve, free]
  · simp [resolve, free, none]

theorem imported_first (binding : Binding) (lib : Library)
    (first : catalog.First (fun l => binding.module ∈ l.modules) lib) :
    catalog.importedRule? binding rest =
      match binding.imported with
      | none => memberRule? lib.table rest
      | some imported => lib.table.lookup (imported :: rest) := by
  have listed := catalog.module_table_first binding.module lib first
  cases named : binding.imported with
  | none => simp only [importedRule?, listed, named]
  | some imported => simp only [importedRule?, listed, named]

theorem global_rule_long (segments : List String) (long : 3 ≤ segments.length) :
    catalog.globalRule? segments = none := by
  rw [globalRule?, List.findSome?_eq_none_iff]
  exact fun lib _ => lib.globals.lookup_long segments long

theorem resolve_long (name : QualifiedName) (long : 3 ≤ name.segments.length) :
    catalog.resolve bindings name = none := by
  obtain ⟨segments⟩ := name
  match segments with
  | [] => rfl
  | [_] => simp at long
  | [_, _] => simp at long
  | head :: second :: third :: rest =>
      have global := catalog.global_rule_long (head :: second :: third :: rest) long
      cases bound : bindings.get? head with
      | some binding =>
          rw [resolve_bound catalog bindings head _ binding bound, importedRule?]
          split
          · rfl
          · split
            · rfl
            · rfl
      | none =>
          cases declared : catalog.namespaceTable? head with
          | some table =>
              exact resolve_declared catalog bindings head _ table bound (List.cons_ne_nil _ _)
                declared
          | none =>
              exact (resolve_global catalog bindings head _ bound (.inr declared)).trans global

variable (nested : Library → List (String × Table))

theorem nesting_module (module : String) :
    ((catalog.nesting nested).moduleTable? module).map Table.rules =
      (catalog.moduleTable? module).map Table.rules := by
  simp [moduleTable?, nesting, List.find?_map, Function.comp_def]

theorem nesting_namespace (name : String) :
    ((catalog.nesting nested).namespaceTable? name).map Table.rules =
      (catalog.namespaceTable? name).map Table.rules := by
  simp [namespaceTable?, nesting, List.find?_map, Function.comp_def]

theorem nesting_global (segments : List String) :
    (catalog.nesting nested).globalRule? segments = catalog.globalRule? segments := by
  simp [globalRule?, nesting, List.findSome?_map, Function.comp_def]

-- After a module or a namespace only the rules of the table itself answer.
theorem nesting_member (table other : Table) (rest : List String)
    (same : table.rules = other.rules) : memberRule? table rest = memberRule? other rest := by
  match rest with
  | [] => rfl
  | [member] => simp only [memberRule?, Table.get?, same]
  | _ :: _ :: _ => rfl

theorem same_rules (left right : Option Table)
    (same : left.map Table.rules = right.map Table.rules) :
    (left = none ∧ right = none) ∨
      ∃ table other : Table, left = some table ∧ right = some other ∧ table.rules = other.rules := by
  cases left with
  | none => exact .inl ⟨rfl, Option.map_eq_none_iff.mp same.symm⟩
  | some table =>
      obtain ⟨other, here, rules⟩ := Option.map_eq_some_iff.mp same.symm
      exact .inr ⟨table, other, rfl, here, rules.symm⟩

-- Without a named import the tables below the table of a library are out of reach.
theorem resolve_nesting (plain : ∀ binding ∈ bindings.get? head, binding.imported = none) :
    (catalog.nesting nested).resolve bindings ⟨head :: rest⟩ =
      catalog.resolve bindings ⟨head :: rest⟩ := by
  cases bound : bindings.get? head with
  | some binding =>
      rw [resolve_bound _ bindings head rest binding bound,
        resolve_bound _ bindings head rest binding bound, importedRule?, importedRule?,
        plain binding bound]
      rcases same_rules _ _ (catalog.nesting_module nested binding.module) with
        ⟨left, right⟩ | ⟨table, other, left, right, same⟩
      · rw [left, right]
      · rw [left, right]
        exact nesting_member table other rest same
  | none =>
      have global := catalog.nesting_global nested (head :: rest)
      rcases same_rules _ _ (catalog.nesting_namespace nested head) with
        ⟨left, right⟩ | ⟨table, other, left, right, same⟩
      · rw [resolve_global _ bindings head rest bound (.inr left),
          resolve_global _ bindings head rest bound (.inr right), global]
      · by_cases single : rest = []
        · rw [resolve_global _ bindings head rest bound (.inl single),
            resolve_global _ bindings head rest bound (.inl single), global]
        · rw [resolve_declared _ bindings head rest table bound single left,
            resolve_declared _ bindings head rest other bound single right]
          exact nesting_member table other rest same

end Resolve

end Catalog

theorem names_resolve_by_precedence (catalog : Catalog) (bindings : Bindings)
    (name : QualifiedName) :
    (3 ≤ name.segments.length → catalog.resolve bindings name = none) ∧
    (∀ (head : String) (rest : List String) (binding : Binding),
      name.segments = head :: rest → bindings.get? head = some binding →
        (∀ lib : Library, catalog.First (fun l => binding.module ∈ l.modules) lib →
          (binding.imported = none → ∀ rule : Rule, catalog.resolve bindings name = some rule ↔
            ∃ member : String, rest = [member] ∧ lib.table.get? member = some rule) ∧
          (∀ imported : String, binding.imported = some imported →
            catalog.resolve bindings name = lib.table.lookup (imported :: rest)) ∧
          ∀ (other : Catalog) (twin : Library),
            other.First (fun l => binding.module ∈ l.modules) twin → twin.table = lib.table →
              other.resolve bindings name = catalog.resolve bindings name) ∧
        ((∀ lib ∈ catalog.libraries, binding.module ∉ lib.modules) →
          catalog.resolve bindings name = none)) ∧
    (∀ (head : String) (rest : List String) (lib : Library),
      name.segments = head :: rest → rest ≠ [] → bindings.get? head = none →
      catalog.First (fun l => head ∈ l.namespaces) lib →
        (∀ rule : Rule, catalog.resolve bindings name = some rule ↔
          ∃ member : String, rest = [member] ∧ lib.table.get? member = some rule) ∧
        ∀ (other : Catalog) (twin : Library),
          other.First (fun l => head ∈ l.namespaces) twin → twin.table.rules = lib.table.rules →
            other.resolve bindings name = catalog.resolve bindings name) ∧
    ((∀ (head : String) (rest : List String), name.segments = head :: rest →
      bindings.get? head = none ∧
        (rest = [] ∨ ∀ lib ∈ catalog.libraries, head ∉ lib.namespaces)) →
      ∀ rule : Rule, catalog.resolve bindings name = some rule ↔
        ∃ lib : Library,
          catalog.First (fun l => (l.globals.lookup name.segments).isSome = true) lib ∧
          lib.globals.lookup name.segments = some rule) ∧
    ((∀ (head : String) (rest : List String), name.segments = head :: rest →
      ∀ binding ∈ bindings.get? head, binding.imported = none) →
      ∀ nested : Library → List (String × Table),
        (catalog.nesting nested).resolve bindings name = catalog.resolve bindings name) := by
  obtain ⟨segments⟩ := name
  refine ⟨catalog.resolve_long bindings ⟨segments⟩, ?_, ?_, ?_, ?_⟩
  · rintro head rest binding rfl bound
    refine ⟨fun lib first => ?_, fun unlisted => ?_⟩
    · have answer (other : Catalog) (twin : Library)
          (first : other.First (fun l => binding.module ∈ l.modules) twin) :=
        (other.resolve_bound bindings head rest binding bound).trans
          (other.imported_first rest binding twin first)
      refine ⟨fun plain rule => ?_, fun imported named => ?_, fun other twin here same => ?_⟩
      · rw [answer catalog lib first, plain]
        exact Catalog.member_rule_iff lib.table rest rule
      · rw [answer catalog lib first, named]
      · rw [answer other twin here, answer catalog lib first, same]
    · rw [catalog.resolve_bound bindings head rest binding bound, Catalog.importedRule?,
        (catalog.module_table_none_iff binding.module).mpr unlisted]
  · rintro head rest lib rfl longer free first
    have answer (other : Catalog) (twin : Library)
        (first : other.First (fun l => head ∈ l.namespaces) twin) :=
      other.resolve_declared bindings head rest twin.table free longer
        (other.namespace_table_first head twin first)
    refine ⟨fun rule => ?_, fun other twin here same => ?_⟩
    · rw [answer catalog lib first]
      exact Catalog.member_rule_iff lib.table rest rule
    · rw [answer other twin here, answer catalog lib first]
      exact Catalog.nesting_member twin.table lib.table rest same
  · intro unknown rule
    match segments with
    | [] => simp [Catalog.resolve, Table.lookup]
    | head :: rest =>
        obtain ⟨free, undeclared⟩ := unknown head rest rfl
        rw [catalog.resolve_global bindings head rest free
          (undeclared.imp_right (catalog.namespace_table_none_iff head).mpr)]
        exact catalog.global_rule_iff (head :: rest) rule
  · intro plain nested
    match segments with
    | [] => rfl
    | head :: rest => exact catalog.resolve_nesting bindings head rest nested (plain head rest rfl)

def animatedImport : Bindings := [("Animated", ⟨"react-native", some "Animated"⟩)]

theorem animated_type_resolved :
    Catalog.builtin.First (fun l => "react-native" ∈ l.modules) ReactNative.library ∧
      Catalog.builtin.resolve animatedImport ⟨["Animated", "AnimatedAddition"]⟩ =
        some (ReactNative.substitute "Animated$" "AnimatedAddition") ∧
      Catalog.builtin.resolve [] ⟨["React", "JSX", "Element"]⟩ = none := by
  have first : Catalog.builtin.First (fun l => "react-native" ∈ l.modules) ReactNative.library :=
    ⟨[React.library], [], rfl, by decide, by decide⟩
  have precedence := names_resolve_by_precedence .builtin animatedImport
    ⟨["Animated", "AnimatedAddition"]⟩
  have named := ((precedence.2.1 "Animated" ["AnimatedAddition"]
    ⟨"react-native", some "Animated"⟩ rfl (by decide)).1 ReactNative.library first).2.1
  exact ⟨first, (named "Animated" rfl).trans (by decide +kernel),
    (names_resolve_by_precedence .builtin [] ⟨["React", "JSX", "Element"]⟩).1 (by decide)⟩

end FlowDefs
