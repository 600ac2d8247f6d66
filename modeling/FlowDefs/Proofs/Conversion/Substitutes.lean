import FlowDefs.Proofs.Conversion.Isolation
import FlowDefs.Proofs.Conversion.Origin
import FlowDefs.Proofs.Library.Selection
import FlowDefs.Proofs.TypeScript.Reading
set_option autoImplicit false

namespace FlowDefs

namespace TypeExpr

variable (resolve : Resolver)

theorem substitution_value (t : TypeExpr) (s : Substitution)
    (found : t.substitution? resolve = some s) :
    ∃ arguments, (t.toFlow resolve).value = .named (.bare s.localName) arguments := by
  cases t with
  | reference source name arguments =>
      have rule : resolve name = some (.substitute s) := by
        simp only [substitution?] at found
        split at found
        · cases found
          assumption
        · cases found
      exact ⟨_, substituted_reference_value resolve source name arguments s rule⟩
  | _ => cases found

theorem substitution_rule (t : TypeExpr) (s : Substitution)
    (found : t.substitution? resolve = some s) : ∃ name, resolve name = some (.substitute s) := by
  cases t with
  | reference source name arguments =>
      simp only [substitution?] at found
      split at found
      · next rule =>
          cases found
          exact ⟨name, rule⟩
      · cases found
  | _ => cases found

theorem origin_required (t : TypeExpr) (u : FlowType) (origin : Option Substitution)
    (derived : Origin resolve t u origin) (s : Substitution) (substituted : origin = some s) :
    s ∈ (t.toFlow resolve).imports ∧
      ∃ arguments, u = .named (.bare s.localName) arguments := by
  induction derived with
  | value t =>
      refine ⟨?_, substitution_value resolve t s substituted⟩
      rw [(to_flow_adds resolve t).1, substituted]
      exact List.mem_append_left _ (by simp)
  | added => cases substituted
  | kept t part u _ member _ ih =>
      obtain ⟨inside, shape⟩ := ih substituted
      refine ⟨?_, shape⟩
      rw [(to_flow_adds resolve t).1]
      exact List.mem_append_right _
        (List.mem_flatMap.mpr ⟨part, kept_converted resolve t part member, inside⟩)

theorem required_rule (t : TypeExpr) (s : Substitution) (member : s ∈ (t.toFlow resolve).imports) :
    ∃ name, resolve name = some (.substitute s) := by
  induction t using by_parts with
  | step t ih =>
      rw [(to_flow_adds resolve t).1] at member
      rcases List.mem_append.mp member with own | below
      · exact substitution_rule resolve t s (by simpa using own)
      · obtain ⟨p, converted, inside⟩ := List.mem_flatMap.mp below
        exact ih p (converted_part resolve t p converted) inside

end TypeExpr

theorem content_types_read (content : Content) (t : TypeExpr) (member : t ∈ content.types) :
    t ∈ content.read := by
  cases content with
  | declaration d => exact member
  | _ => cases member

theorem origin_imported (resolve : Resolver) (s : SourceStatement) (u : FlowType)
    (substitution : Substitution) (origin : s.Origin resolve u (some substitution)) :
    substitution ∈ (s.toFlow resolve).imports ∧
      ∃ arguments, u = .named (.bare substitution.localName) arguments := by
  obtain ⟨t, member, derived⟩ := origin
  obtain ⟨required, shape⟩ := TypeExpr.origin_required resolve t u _ derived substitution rfl
  refine ⟨?_, shape⟩
  rw [statement_to_flow_imports]
  exact List.mem_flatMap.mpr ⟨t, content_types_read s.content t member, required⟩

theorem imported_rule (resolve : Resolver) (s : SourceStatement) (substitution : Substitution)
    (member : substitution ∈ (s.toFlow resolve).imports) :
    ∃ name, resolve name = some (.substitute substitution) := by
  rw [statement_to_flow_imports] at member
  obtain ⟨t, _, inside⟩ := List.mem_flatMap.mp member
  exact TypeExpr.required_rule resolve t substitution inside

theorem declaration_injective (s t : Substitution) (same : s.declaration = t.declaration) :
    s = t := by
  cases s
  cases t
  simp [Substitution.declaration] at same ⊢
  exact ⟨same.1.1, same.1.2, same.2⟩

def resolverAt (catalog : Catalog) (root : Node) (i : Nat) : Resolver :=
  catalog.resolve (Session.boundBy catalog (root.statements.take i))

def firedIn (catalog : Catalog) (root : Node) : List Substitution :=
  (root.statements.mapIdx fun i s =>
    (Session.convertAlone catalog (root.statements.take i) s).2.imports).flatten.eraseDups

theorem mem_fired (catalog : Catalog) (root : Node) (substitution : Substitution) :
    substitution ∈ firedIn catalog root ↔ ∃ (i : Nat) (s : SourceStatement),
      root.statements[i]? = some s ∧ substitution ∈ (s.toFlow (resolverAt catalog root i)).imports := by
  have alone (i : Nat) (s : SourceStatement) :
      (Session.convertAlone catalog (root.statements.take i) s).2.imports =
        (s.toFlow (resolverAt catalog root i)).imports.eraseDups :=
    (Session.convert_imports _ _ s).trans (Session.add_imports_nil _)
  simp only [firedIn, List.mem_eraseDups, List.mem_flatten, List.mem_mapIdx, alone]
  constructor
  · rintro ⟨_, ⟨i, bound, rfl⟩, member⟩
    exact ⟨i, root.statements[i], List.getElem?_eq_getElem bound, List.mem_eraseDups.mp member⟩
  · rintro ⟨i, s, found, member⟩
    obtain ⟨bound, rfl⟩ := List.getElem?_eq_some_iff.mp found
    exact ⟨_, ⟨i, bound, rfl⟩, List.mem_eraseDups.mpr member⟩

theorem fired_rule (catalog : Catalog) (root : Node) (substitution : Substitution)
    (member : substitution ∈ firedIn catalog root) : .substitute substitution ∈ catalog.rules := by
  obtain ⟨i, s, _, inside⟩ := (mem_fired catalog root substitution).mp member
  obtain ⟨name, found⟩ := imported_rule _ s substitution inside
  exact catalog.resolve_mem _ name _ found

theorem fired_local_names (names : List String) (root : Node) :
    ((firedIn (Catalog.select names).1 root).map Substitution.localName).Nodup := by
  apply List.Nodup.map_on _ (erase_dups_nodup _)
  intro s first t second same
  exact Catalog.builtin_local_names s t (Catalog.select_rules names _ (fired_rule _ root s first))
    (Catalog.select_rules names _ (fired_rule _ root t second)) same

def ImportSpecifier.localName : ImportSpecifier → String
  | .default localName => localName
  | .wholeModule localName => localName
  | .named _ localName _ => localName

def ImportDeclaration.localNames (d : ImportDeclaration) : List String :=
  d.specifiers.map ImportSpecifier.localName

-- The types of each result have an origin; those that a substitution put there are imported; the
-- imports are distinct and come from rules in force; and substitutes of built-in libraries have
-- distinct local names.
theorem substitutes_imported (catalog : Catalog) (name : String) (root : Node) :
    let converted := convertFile catalog name root
    (∀ (i : Nat) (s : SourceStatement), root.statements[i]? = some s →
      ∃ result, converted.file.body[i]? = some result ∧
        (∀ u, result.Contains u ↔ ∃ origin, s.Origin (resolverAt catalog root i) u origin) ∧
        ∀ (u : FlowType) (substitution : Substitution),
          s.Origin (resolverAt catalog root i) u (some substitution) →
          (∃ arguments, u = .named (.bare substitution.localName) arguments) ∧
            substitution.declaration ∈ converted.file.imports) ∧
      converted.file.imports.Nodup ∧
      (∀ d ∈ converted.file.imports, ∃ s : Substitution, .substitute s ∈ catalog.rules ∧
        d = ⟨.type, [.named s.importName s.localName none], s.module⟩) ∧
      ∀ names : List String, ((convertFile (Catalog.select names).1 name root).file.imports.flatMap
        ImportDeclaration.localNames).Nodup := by
  have imports (catalog : Catalog) : (convertFile catalog name root).file.imports =
      (firedIn catalog root).map Substitution.declaration := (convert_file_apart catalog name root).2.1
  refine ⟨?_, ?_, ?_, ?_⟩
  · intro i s found
    refine ⟨(s.toFlow (resolverAt catalog root i)).value, ?_, ?_, ?_⟩
    · rw [(convert_file_apart catalog name root).1, List.getElem?_mapIdx, found]
      exact congrArg some (Session.convert_value _ _ s)
    · exact statement_contains_iff _ s
    · intro u substitution origin
      obtain ⟨required, shape⟩ := origin_imported _ s u substitution origin
      refine ⟨shape, ?_⟩
      rw [imports]
      exact List.mem_map_of_mem ((mem_fired catalog root substitution).mpr ⟨i, s, found, required⟩)
  · rw [imports]
    exact (erase_dups_nodup _).map declaration_injective
  · intro d member
    rw [imports] at member
    obtain ⟨s, fired, rfl⟩ := List.mem_map.mp member
    exact ⟨s, fired_rule catalog root s fired, rfl⟩
  · intro names
    have distinct := fired_local_names names root
    rw [List.map_eq_flatMap] at distinct
    rw [imports, List.flatMap_map]
    exact distinct

-- The element type of JSX is global, and its substitute comes from the library of React.
def elementType : Node :=
  ⟨"nested_type_identifier", ["value"], true, ⟨9, 20⟩, "JSX.Element", "type_alias_declaration",
    [⟨"identifier", ["module"], true, ⟨9, 12⟩, "JSX", "nested_type_identifier", []⟩,
      ⟨".", [], false, ⟨12, 13⟩, ".", "nested_type_identifier", []⟩,
      ⟨"type_identifier", ["name"], true, ⟨13, 20⟩, "Element", "nested_type_identifier", []⟩]⟩

def elementAlias : Node :=
  let id : Node := ⟨"type_identifier", ["name"], true, ⟨5, 6⟩, "A", "type_alias_declaration", []⟩
  ⟨"program", [], true, ⟨0, 21⟩, "", "", [⟨"type_alias_declaration", [], true, ⟨0, 21⟩,
    "type A = JSX.Element;", "program", [id, elementType]⟩]⟩

def elementSubstitution : Substitution :=
  ⟨"JSX$Element", "$tsflower_subst$React$JSX$Element", "tsflower/subst/react"⟩

theorem element_resolved : (TypeExpr.ofNode elementType).substitution?
    (resolverAt .builtin elementAlias 0) = some elementSubstitution := by
  have read : TypeExpr.ofNode elementType = .reference elementType.quote ⟨["JSX", "Element"]⟩ [] := by
    have segments : elementType.nameSegments = ["JSX", "Element"] := by
      rw [Node.name_segments_eq]
      simp [elementType, Node.isDotted, Node.parts, Node.isComment, Node.name_segments_eq]
    have form : elementType.construct.typeForm = .reference := by decide
    rw [TypeExpr.of_node_eq, form]
    simp [Node.qualifiedName, segments]
    simp [elementType]
  rw [read]
  rfl

theorem global_element_imported :
    elementSubstitution.declaration ∈ (convertFile .builtin "a.d.ts" elementAlias).file.imports := by
  obtain ⟨occurring, -, -, -⟩ := substitutes_imported .builtin "a.d.ts" elementAlias
  obtain ⟨_, _, _, imported⟩ := occurring 0 _ rfl
  let resolve := resolverAt .builtin elementAlias 0
  let t := TypeExpr.ofNode elementType
  have origin : TypeExpr.Origin resolve t (t.toFlow resolve).value (some elementSubstitution) := by
    rw [← element_resolved]
    exact .value t
  exact (imported _ elementSubstitution ⟨t, List.mem_append_right _ List.mem_cons_self, origin⟩).2

end FlowDefs
