import FlowDefs.Proofs.Conversion.Substitutes
import FlowDefs.Syntax.Outline
set_option autoImplicit false

namespace FlowDefs

namespace TypeExpr

-- A substitution that was required below a part of the type that is dropped.
inductive Discards (resolve : Resolver) (s : Substitution) : TypeExpr → Prop where
  | faulty (source : Quote) (properties : List (Property TypeExpr)) (fault : Fault)
      (p : Property TypeExpr) (member : p ∈ properties)
      (required : s ∈ (p.value.toFlow resolve).imports) :
      Discards resolve s (.object source properties (some fault))
  | inside (t part : TypeExpr) (member : part ∈ t.kept resolve)
      (inner : Discards resolve s part) : Discards resolve s t

variable (resolve : Resolver) (s : Substitution)

theorem required_of_discards (t : TypeExpr) (discards : t.Discards resolve s) :
    s ∈ (t.toFlow resolve).imports := by
  induction discards with
  | faulty source properties fault p member required =>
      rw [(to_flow_adds resolve _).1]
      exact List.mem_append_right _
        (List.mem_flatMap.mpr ⟨p.value, List.mem_map_of_mem member, required⟩)
  | inside t part member inner ih =>
      rw [(to_flow_adds resolve t).1]
      exact List.mem_append_right _
        (List.mem_flatMap.mpr ⟨part, kept_converted resolve t part member, ih⟩)

-- A converted part stays in the result, unless a fault of an object type drops it.
theorem converted_kept (t p : TypeExpr) (member : p ∈ t.converted resolve) :
    p ∈ t.kept resolve ∨ ∃ source properties fault, t = .object source properties (some fault) := by
  cases t with
  | object source properties fault =>
      cases fault with
      | none => exact .inl member
      | some fault => exact .inr ⟨source, properties, fault, rfl⟩
  | _ => exact .inl member

theorem required_kept_or_discarded (t : TypeExpr) (required : s ∈ (t.toFlow resolve).imports) :
    (∃ u, Origin resolve t u (some s)) ∨ t.Discards resolve s := by
  induction t using by_parts with
  | step t ih =>
      rw [(to_flow_adds resolve t).1] at required
      rcases List.mem_append.mp required with own | below
      · have found : t.substitution? resolve = some s := by simpa using own
        exact .inl ⟨_, by rw [← found]; exact .value t⟩
      · obtain ⟨p, converted, inside⟩ := List.mem_flatMap.mp below
        rcases converted_kept resolve t p converted with kept | ⟨source, properties, fault, rfl⟩
        · rcases ih p (converted_part resolve t p converted) inside with ⟨u, origin⟩ | discards
          · exact .inl ⟨u, .kept t p u _ kept origin⟩
          · exact .inr (.inside t p kept discards)
        · obtain ⟨q, listed, rfl⟩ := List.mem_map.mp converted
          exact .inr (.faulty source properties fault q listed inside)

end TypeExpr

-- A statement drops what an abandoned list of variables required, and what its types drop.
inductive Content.Discards (resolve : Resolver) (s : Substitution) : Content → Prop where
  | abandoned (fault : Fault) (bound : List (String × Binding)) (read : List (Variable TypeExpr))
      (v : Variable TypeExpr) (t : TypeExpr) (member : v ∈ read) (typed : v.type = some t)
      (required : s ∈ (t.toFlow resolve).imports) :
      Discards resolve s (.abandoned fault bound read)
  | inside (content : Content) (t : TypeExpr) (member : t ∈ content.types)
      (inner : t.Discards resolve s) : Discards resolve s content

theorem read_kept_or_abandoned (content : Content) (t : TypeExpr) (read : t ∈ content.read) :
    t ∈ content.types ∨ ∃ fault bound vars, content = .abandoned fault bound vars ∧
      ∃ v ∈ vars, v.type = some t := by
  cases content with
  | abandoned fault bound vars =>
      obtain ⟨v, member, typed⟩ := List.mem_flatMap.mp read
      exact .inr ⟨fault, bound, vars, rfl, v, member, Option.mem_toList.mp typed⟩
  | declaration d => exact .inl read
  | _ => cases read

theorem statement_requires_iff (resolve : Resolver) (s : Substitution)
    (statement : SourceStatement) :
    s ∈ (statement.toFlow resolve).imports ↔
      (∃ u, statement.Origin resolve u (some s)) ∨ statement.content.Discards resolve s := by
  rw [statement_to_flow_imports, List.mem_flatMap]
  constructor
  · rintro ⟨t, read, required⟩
    rcases read_kept_or_abandoned statement.content t read with kept |
      ⟨fault, bound, vars, same, v, member, typed⟩
    · rcases TypeExpr.required_kept_or_discarded resolve s t required with ⟨u, origin⟩ | discards
      · exact .inl ⟨u, t, kept, origin⟩
      · exact .inr (.inside _ t kept discards)
    · rw [same]
      exact .inr (.abandoned fault bound vars v t member typed required)
  · rintro (⟨u, t, kept, origin⟩ | discards)
    · exact ⟨t, content_types_read _ t kept,
        (TypeExpr.origin_required resolve t u _ origin s rfl).1⟩
    · generalize statement.content = content at discards
      cases discards with
      | abandoned fault bound vars v t member typed required =>
          exact ⟨t, List.mem_flatMap.mpr ⟨v, member, Option.mem_toList.mpr typed⟩, required⟩
      | inside _ t member inner =>
          exact ⟨t, content_types_read _ t member, TypeExpr.required_of_discards resolve s t inner⟩

-- Each import is in use in the body or left over from something that was dropped, and whatever was
-- dropped leaves its imports.
theorem import_used_or_left_over (catalog : Catalog) (name : String) (root : Node) :
    let file := (convertFile catalog name root).file
    (∀ d ∈ file.imports, ∃ s : Substitution, d = s.declaration ∧
      ((∃ result ∈ file.body, ∃ arguments, result.Contains (.named (.bare s.localName) arguments)) ∨
        ∃ (i : Nat) (statement : SourceStatement), root.statements[i]? = some statement ∧
          statement.content.Discards (resolverAt catalog root i) s)) ∧
      ∀ (i : Nat) (statement : SourceStatement) (s : Substitution),
        root.statements[i]? = some statement →
        statement.content.Discards (resolverAt catalog root i) s →
          s.declaration ∈ file.imports := by
  obtain ⟨body, imports, -⟩ := convert_file_apart catalog name root
  have listed : (convertFile catalog name root).file.imports =
      (firedIn catalog root).map Substitution.declaration := imports
  refine ⟨?_, ?_⟩
  · intro d member
    rw [listed] at member
    obtain ⟨s, fired, rfl⟩ := List.mem_map.mp member
    obtain ⟨i, statement, found, required⟩ := (mem_fired catalog root s).mp fired
    refine ⟨s, rfl, ?_⟩
    rcases (statement_requires_iff _ s statement).mp required with ⟨u, origin⟩ | discards
    · obtain ⟨-, arguments, rfl⟩ := origin_imported _ statement u s origin
      refine .inl ⟨(statement.toFlow (resolverAt catalog root i)).value, ?_, arguments,
        (statement_contains_iff _ statement _).mpr ⟨_, origin⟩⟩
      refine List.mem_of_getElem? (i := i) ?_
      rw [body, List.getElem?_mapIdx, found]
      exact congrArg some (Session.convert_value _ _ statement)
    · exact .inr ⟨i, statement, found, discards⟩
  · intro i statement s found discards
    rw [listed]
    exact List.mem_map_of_mem ((mem_fired catalog root s).mpr
      ⟨i, statement, found, (statement_requires_iff _ s statement).mpr (.inr discards)⟩)

-- Two statements, the first of which fails at its second variable.
def patternSource : String := "var a: React.ReactNode, \x7bc\x7d: d;\ntype T = React.Ref;"

def patternRows : List Row := [
  ⟨"program", [], true, ⟨0, 51⟩, 2⟩,
  ⟨"variable_declaration", [], true, ⟨0, 31⟩, 5⟩,
  ⟨"var", [], false, ⟨0, 3⟩, 0⟩,
  ⟨"variable_declarator", [], true, ⟨4, 22⟩, 2⟩,
  ⟨"identifier", ["name"], true, ⟨4, 5⟩, 0⟩,
  ⟨"type_annotation", ["type"], true, ⟨5, 22⟩, 2⟩,
  ⟨":", [], false, ⟨5, 6⟩, 0⟩,
  ⟨"nested_type_identifier", [], true, ⟨7, 22⟩, 3⟩,
  ⟨"identifier", ["module"], true, ⟨7, 12⟩, 0⟩,
  ⟨".", [], false, ⟨12, 13⟩, 0⟩,
  ⟨"type_identifier", ["name"], true, ⟨13, 22⟩, 0⟩,
  ⟨",", [], false, ⟨22, 23⟩, 0⟩,
  ⟨"variable_declarator", [], true, ⟨24, 30⟩, 2⟩,
  ⟨"object_pattern", ["name"], true, ⟨24, 27⟩, 3⟩,
  ⟨"\x7b", [], false, ⟨24, 25⟩, 0⟩,
  ⟨"shorthand_property_identifier_pattern", [], true, ⟨25, 26⟩, 0⟩,
  ⟨"\x7d", [], false, ⟨26, 27⟩, 0⟩,
  ⟨"type_annotation", ["type"], true, ⟨27, 30⟩, 2⟩,
  ⟨":", [], false, ⟨27, 28⟩, 0⟩,
  ⟨"type_identifier", [], true, ⟨29, 30⟩, 0⟩,
  ⟨";", [], false, ⟨30, 31⟩, 0⟩,
  ⟨"type_alias_declaration", [], true, ⟨32, 51⟩, 5⟩,
  ⟨"type", [], false, ⟨32, 36⟩, 0⟩,
  ⟨"type_identifier", ["name"], true, ⟨37, 38⟩, 0⟩,
  ⟨"=", [], false, ⟨39, 40⟩, 0⟩,
  ⟨"nested_type_identifier", ["value"], true, ⟨41, 50⟩, 3⟩,
  ⟨"identifier", ["module"], true, ⟨41, 46⟩, 0⟩,
  ⟨".", [], false, ⟨46, 47⟩, 0⟩,
  ⟨"type_identifier", ["name"], true, ⟨47, 50⟩, 0⟩,
  ⟨";", [], false, ⟨50, 51⟩, 0⟩]

def isReactRef : FlowType → Bool
  | .reference name none [] => name = .bare "$tsflower_subst$React$Ref"
  | _ => false

-- The import of the first variable's type, which the body does not hold any more.
theorem dropped_variable_leaves_import : ∃ root ∈ Node.ofRows? patternSource patternRows,
    let file := (convertFile .builtin "input.d.ts" root).file
    ∃ d ∈ file.imports, d.localNames = ["$tsflower_subst$React$ReactNode"] ∧
      ∀ localName ∈ d.localNames, ∀ result ∈ file.body, ∀ arguments comments,
        ¬ result.Contains (.reference (.bare localName) arguments comments) := by
  have read : (Node.ofRows? patternSource patternRows).isSome = true := by decide +kernel
  obtain ⟨root, found⟩ := Option.isSome_iff_exists.mp read
  have checks : ((Node.ofRows? patternSource patternRows).map fun root =>
      let file := (convertFile .builtin "input.d.ts" root).file
      ((file.imports.head?.map ImportDeclaration.localNames),
        (file.body.flatMap Statement.types).all isReactRef)) =
        some (some ["$tsflower_subst$React$ReactNode"], true) := by decide +kernel
  rw [found] at checks
  simp only [Option.map_some, Option.some.injEq, Prod.mk.injEq] at checks
  obtain ⟨names, types⟩ := checks
  obtain ⟨d, first, names⟩ := Option.map_eq_some_iff.mp names
  refine ⟨root, found, d, List.mem_of_head? first, names, ?_⟩
  rw [names]
  intro localName member result listed arguments comments contains
  obtain ⟨t, typed, occurs⟩ := contains
  have ref := List.all_eq_true.mp types t (List.mem_flatMap.mpr ⟨result, listed, typed⟩)
  unfold isReactRef at ref
  split at ref
  · cases occurs with
    | here =>
        rw [List.mem_singleton.mp member] at ref
        exact absurd ref (by decide)
    | inside part whole inner => cases inner
  · cases ref

end FlowDefs
