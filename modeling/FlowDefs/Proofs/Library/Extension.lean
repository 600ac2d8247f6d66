import FlowDefs.Proofs.Library.Resolution
set_option autoImplicit false

namespace FlowDefs

namespace Catalog

section Add

variable (catalog : Catalog) (lib : Library)

theorem find_add (p : Library → Bool) :
    (catalog.add lib).libraries.find? p = (catalog.libraries.find? p).or ([lib].find? p) :=
  List.find?_append

theorem module_table_kept (module : String)
    (listed : ∃ other ∈ catalog.libraries, module ∈ other.modules) :
    (catalog.add lib).moduleTable? module = catalog.moduleTable? module := by
  have found : (catalog.libraries.find? fun l => l.modules.contains module).isSome = true := by
    simpa using listed
  obtain ⟨first, found⟩ := Option.isSome_iff_exists.mp found
  rw [moduleTable?, find_add, found, Option.some_or, moduleTable?, found]

theorem namespace_table_kept (name : String) (table : Table)
    (found : catalog.namespaceTable? name = some table) :
    (catalog.add lib).namespaceTable? name = some table := by
  obtain ⟨first, here, rfl⟩ := Option.map_eq_some_iff.mp found
  rw [namespaceTable?, find_add, here, Option.some_or, Option.map_some]

theorem global_rule_kept (segments : List String) (rule : Rule)
    (found : catalog.globalRule? segments = some rule) :
    (catalog.add lib).globalRule? segments = some rule := by
  rw [globalRule?] at found
  rw [globalRule?, add, List.findSome?_append, found, Option.some_or]

end Add

-- The library takes a name that starts with a namespace of its own and of no library before it.
structure Overtaken (catalog : Catalog) (lib : Library) (bindings : Bindings) (head : String)
    (rest : List String) : Prop where
  free : bindings.get? head = none
  longer : rest ≠ []
  declared : head ∈ lib.namespaces
  undeclared : ∀ other ∈ catalog.libraries, head ∉ other.namespaces

section Resolve

variable (catalog : Catalog) (lib : Library) (bindings : Bindings) (head : String)
  (rest : List String)

theorem resolve_overtaken (overtaken : catalog.Overtaken lib bindings head rest) :
    (catalog.add lib).resolve bindings ⟨head :: rest⟩ = memberRule? lib.table rest := by
  have first : (catalog.add lib).First (fun l => head ∈ l.namespaces) lib :=
    ⟨catalog.libraries, [], rfl, overtaken.declared, overtaken.undeclared⟩
  exact (catalog.add lib).resolve_declared bindings head rest lib.table overtaken.free
    overtaken.longer ((catalog.add lib).namespace_table_first head lib first)

theorem resolve_listed (binding : Binding) (bound : bindings.get? head = some binding)
    (listed : ∃ other ∈ catalog.libraries, binding.module ∈ other.modules) :
    (catalog.add lib).resolve bindings ⟨head :: rest⟩ =
      catalog.resolve bindings ⟨head :: rest⟩ := by
  rw [resolve_bound _ bindings head rest binding bound,
    resolve_bound _ bindings head rest binding bound, importedRule?, importedRule?,
    catalog.module_table_kept lib binding.module listed]

theorem resolve_kept (rule : Rule) (found : catalog.resolve bindings ⟨head :: rest⟩ = some rule)
    (ahead : ¬ catalog.Overtaken lib bindings head rest) :
    (catalog.add lib).resolve bindings ⟨head :: rest⟩ = some rule := by
  cases bound : bindings.get? head with
  | some binding =>
      by_cases listed : ∃ other ∈ catalog.libraries, binding.module ∈ other.modules
      · exact (resolve_listed catalog lib bindings head rest binding bound listed).trans found
      · rw [resolve_bound catalog bindings head rest binding bound, importedRule?,
          (catalog.module_table_none_iff binding.module).mpr
            fun other member inside => listed ⟨other, member, inside⟩] at found
        cases found
  | none =>
      cases space : catalog.namespaceTable? head with
      | some table =>
          by_cases single : rest = []
          · rw [resolve_global catalog bindings head rest bound (.inl single)] at found
            rw [resolve_global _ bindings head rest bound (.inl single)]
            exact catalog.global_rule_kept lib _ rule found
          · rw [resolve_declared catalog bindings head rest table bound single space] at found
            rw [resolve_declared _ bindings head rest table bound single
              (catalog.namespace_table_kept lib head table space)]
            exact found
      | none =>
          rw [resolve_global catalog bindings head rest bound (.inr space)] at found
          have undeclared := (catalog.namespace_table_none_iff head).mp space
          have free : rest = [] ∨ (catalog.add lib).namespaceTable? head = none := by
            by_cases single : rest = []
            · exact .inl single
            · refine .inr ((namespace_table_none_iff _ head).mpr fun other member => ?_)
              rcases List.mem_append.mp member with old | new
              · exact undeclared other old
              · rw [List.mem_singleton.mp new]
                exact fun declared => ahead ⟨bound, single, declared, undeclared⟩
          rw [resolve_global _ bindings head rest bound free]
          exact catalog.global_rule_kept lib _ rule found

end Resolve

end Catalog

theorem added_library_conservative (catalog : Catalog) (lib : Library) (bindings : Bindings)
    (name : QualifiedName) :
    (∀ rule : Rule, catalog.resolve bindings name = some rule →
      (∀ (head : String) (rest : List String), name.segments = head :: rest →
        ¬ catalog.Overtaken lib bindings head rest) →
      (catalog.add lib).resolve bindings name = some rule) ∧
    (∀ (head : String) (rest : List String), name.segments = head :: rest →
      catalog.Overtaken lib bindings head rest →
      ∀ rule : Rule, (catalog.add lib).resolve bindings name = some rule ↔
        ∃ member : String, rest = [member] ∧ lib.table.get? member = some rule) ∧
    (∀ (head : String) (rest : List String) (binding : Binding), name.segments = head :: rest →
      bindings.get? head = some binding →
      (∃ other ∈ catalog.libraries, binding.module ∈ other.modules) →
      (catalog.add lib).resolve bindings name = catalog.resolve bindings name) := by
  obtain ⟨segments⟩ := name
  refine ⟨fun rule found ahead => ?_, ?_, ?_⟩
  · match segments with
    | [] => cases found
    | head :: rest =>
        exact catalog.resolve_kept lib bindings head rest rule found (ahead head rest rfl)
  · rintro head rest rfl overtaken rule
    rw [catalog.resolve_overtaken lib bindings head rest overtaken]
    exact Catalog.member_rule_iff lib.table rest rule
  · rintro head rest binding rfl bound listed
    exact catalog.resolve_listed lib bindings head rest binding bound listed

-- A library of its own for elements, which claims the global namespace of another library.
def elements : Library where
  name := "elements"
  modules := ["react"]
  namespaces := ["JSX", "React"]
  table := Table.empty.withRule "Element" (.expand .reactElement)
  globals := .empty

theorem element_overtaken :
    Catalog.builtin.resolve [] ⟨["JSX", "Element"]⟩ = some (React.substitute "JSX$Element") ∧
      (Catalog.builtin.add elements).resolve [] ⟨["JSX", "Element"]⟩ =
        some (.expand .reactElement) ∧
      (Catalog.builtin.add elements).resolve [] ⟨["React", "Ref"]⟩ =
        some (React.substitute "Ref") := by
  have overtaken : Catalog.builtin.Overtaken elements [] "JSX" ["Element"] :=
    ⟨rfl, List.cons_ne_nil _ _, by decide, by decide⟩
  have jsx := (added_library_conservative .builtin elements [] ⟨["JSX", "Element"]⟩).2.1 "JSX"
    ["Element"] rfl overtaken (.expand .reactElement)
  have ref := (added_library_conservative .builtin elements [] ⟨["React", "Ref"]⟩).1
    (React.substitute "Ref") (by decide +kernel)
  refine ⟨by decide +kernel, jsx.mpr ⟨"Element", rfl, by decide⟩, ref ?_⟩
  rintro head rest same overtaken
  cases same
  exact overtaken.undeclared React.library List.mem_cons_self (by decide)

end FlowDefs
