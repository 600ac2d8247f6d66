import Mathlib.Data.List.Basic
import FlowDefs.Proofs.Syntax.Comments
import FlowDefs.Proofs.TypeScript.Reading
set_option autoImplicit false

namespace FlowDefs

namespace Node

theorem uncommented_segments (n : Node) : n.uncommented.nameSegments = n.nameSegments := by
  induction n using by_inner with
  | step n ih =>
      have dotted : n.uncommented.isDotted = n.isDotted := by
        unfold isDotted
        rw [uncommented_kind]
      rw [name_segments_eq, name_segments_eq, dotted, uncommented_text, uncommented_parts,
        List.flatMap_map]
      split
      · apply List.flatMap_congr
        intro c part
        exact ih c (part_inner c n part)
      · rfl

theorem uncommented_name (n : Node) : n.uncommented.qualifiedName = n.qualifiedName := by
  unfold qualifiedName
  rw [uncommented_segments]

theorem uncommented_bound_name (n : Node) : n.uncommented.boundName? = n.boundName? := by
  unfold boundName?
  rw [uncommented_kind, uncommented_text]

theorem uncommented_annotating (n : Node) : n.uncommented.isAnnotating = n.isAnnotating := by
  unfold isAnnotating
  rw [uncommented_kind]

theorem uncommented_key (n : Node) (plain : n.PlainComments) :
    n.uncommented.propertyKey = n.propertyKey := by
  unfold propertyKey
  rw [uncommented_field n plain]
  cases found : n.field? "name" with
  | none => rfl
  | some name =>
      have inside := plain_inside name n plain (field_mem_nodes name n _ found)
      simp only [Option.map_some]
      rw [uncommented_construct name inside, uncommented_text, uncommented_kind]

end Node

namespace TypeExpr

open Node

theorem uncommented_digits (type : Node) (digits : String) (signed : Option String) :
    ofDigits type.uncommented digits signed = ofDigits type digits signed := by
  unfold ofDigits
  rw [uncommented_quote]

theorem uncommented_signed (type value : Node) (plain : value.PlainComments) :
    ofSigned type.uncommented value.uncommented = ofSigned type value := by
  have argument : (value.uncommented.field? "argument" <|> value.uncommented.firstPart?) =
      (value.field? "argument" <|> value.firstPart?).map uncommented := by
    rw [uncommented_field value plain, uncommented_first_part]
    cases value.field? "argument" <;> rfl
  unfold ofSigned
  rw [argument, uncommented_field value plain, uncommented_token value plain]
  cases found : (value.field? "argument" <|> value.firstPart?) with
  | none => simp
  | some node =>
      have inside : node ∈ value.nodes := by
        cases field : value.field? "argument" with
        | none =>
            rw [field] at found
            exact first_part_mem_nodes node value found
        | some named =>
            rw [field] at found
            cases found
            exact field_mem_nodes node value _ field
      simp only [Option.map_some, uncommented_construct node (plain_inside node value plain inside),
        uncommented_text, uncommented_digits, uncommented_quote]
      cases value.field? "operator" with
      | none => rfl
      | some token => simp only [Option.map_some, uncommented_text]

theorem uncommented_numeric (type value : Node) (plain : value.PlainComments) :
    ofNumeric type.uncommented value.uncommented = ofNumeric type value := by
  unfold ofNumeric
  rw [uncommented_first_part, uncommented_token value plain]
  cases value.firstPart? with
  | none => simp [uncommented_digits]
  | some digits => simp [uncommented_digits]

theorem uncommented_literal (type : Node) (plain : type.PlainComments) :
    ofLiteral type.uncommented = ofLiteral type := by
  unfold ofLiteral
  rw [uncommented_first_part]
  cases first : type.firstPart? with
  | none => simp
  | some node =>
      have inside := plain_inside node type plain (first_part_mem_nodes node type first)
      simp only [Option.map_some, uncommented_construct node inside, uncommented_describe node inside,
        uncommented_numeric type node inside, uncommented_signed type node inside,
        uncommented_text, uncommented_quote]

section Inner

-- The nodes inside a node already read the same.
variable (n : Node) (plain : n.PlainComments)
  (inner : ∀ d ∈ n.innerNodes, ofNode d.uncommented = ofNode d)

include inner

theorem uncommented_of_parts : ofParts n.uncommented = ofParts n := by
  rw [of_parts_eq, of_parts_eq, uncommented_parts, List.map_map]
  apply List.map_congr_left
  intro c part
  exact inner c (part_inner c n part)

theorem uncommented_first_type :
    n.uncommented.firstPart?.map ofNode = n.firstPart?.map ofNode := by
  rw [uncommented_first_part, Option.map_map]
  apply Option.map_congr
  intro c first
  exact inner c (first_part_inner c n first)

theorem deeper_inner (c : Node) (inside : c ∈ n.innerNodes) :
    ∀ d ∈ c.innerNodes, ofNode d.uncommented = ofNode d :=
  fun d deeper => inner d (inner_trans d c n deeper inside)

theorem uncommented_annotation (self : ofNode n.uncommented = ofNode n) :
    ofAnnotated n.uncommented = ofAnnotated n := by
  rw [of_annotated_eq, of_annotated_eq, uncommented_annotating, uncommented_quote,
    uncommented_first_type n inner, self]

theorem uncommented_union : unionMembers n.uncommented = unionMembers n := by
  induction n using by_inner with
  | step n ih =>
      rw [union_members_eq, union_members_eq, uncommented_parts, List.flatMap_map]
      apply List.flatMap_congr
      intro c part
      have inside := part_inner c n part
      rw [uncommented_kind, ih c inside (deeper_inner n inner c inside), inner c inside]

include plain

theorem uncommented_annotated (field : String) :
    annotated n.uncommented field = annotated n field := by
  rw [annotated_eq, annotated_eq, uncommented_field n plain, Option.map_map]
  apply Option.map_congr
  intro c found
  have inside := field_inner c n field found
  exact uncommented_annotation c (deeper_inner n inner c inside) (inner c inside)

theorem uncommented_clause (field : String) :
    clauseType n.uncommented field = clauseType n field := by
  rw [clause_type_eq, clause_type_eq, uncommented_field n plain, Option.bind_map]
  apply Option.bind_congr
  intro clause found
  exact uncommented_first_type clause (deeper_inner n inner clause (field_inner clause n field found))

theorem uncommented_arguments : typeArguments n.uncommented = typeArguments n := by
  rw [type_arguments_eq, type_arguments_eq, uncommented_field n plain, Option.map_map]
  congr 1
  apply Option.map_congr
  intro list found
  exact uncommented_of_parts list (deeper_inner n inner list (field_inner list n _ found))

theorem uncommented_type_param : typeParam n.uncommented = typeParam n := by
  rw [typeParam, typeParam, uncommented_field n plain, uncommented_clause n plain inner,
    uncommented_clause n plain inner, Option.map_map]
  congr 3
  funext c
  exact uncommented_text c

theorem uncommented_type_params : typeParams n.uncommented = typeParams n := by
  rw [type_params_eq, type_params_eq, uncommented_field n plain, Option.map_map]
  apply Option.map_congr
  intro list found
  have inside := field_inner list n _ found
  rw [Function.comp_apply, uncommented_parts, List.filterMap_map]
  apply List.filterMap_congr
  intro c part
  have deeper := inner_trans c list n (part_inner c list part) inside
  rw [Function.comp_apply, uncommented_kind, uncommented_type_param c
    (plain_inside c n plain (inner_nodes c n deeper)) (deeper_inner n inner c deeper)]

theorem uncommented_param : param n.uncommented = param n := by
  rw [param, param, uncommented_field n plain, uncommented_annotated n plain inner,
    uncommented_kind]
  cases n.field? "pattern" with
  | none => rfl
  | some pattern =>
      simp only [Option.map_some, uncommented_kind, uncommented_bound_name,
        uncommented_first_part]
      cases pattern.firstPart? with
      | none => rfl
      | some name => simp only [Option.map_some, Option.bind_some, uncommented_bound_name]

theorem uncommented_params : params n.uncommented = params n := by
  rw [params_eq, params_eq, uncommented_field n plain, Option.map_map]
  congr 1
  apply Option.map_congr
  intro list found
  have inside := field_inner list n _ found
  rw [Function.comp_apply, uncommented_parts, List.map_map]
  apply List.map_congr_left
  intro c part
  have deeper := inner_trans c list n (part_inner c list part) inside
  exact uncommented_param c (plain_inside c n plain (inner_nodes c n deeper))
    (deeper_inner n inner c deeper)

theorem uncommented_signature : signature n.uncommented = signature n := by
  rw [signature, signature, uncommented_type_params n plain inner, uncommented_params n plain inner,
    uncommented_annotated n plain inner]

theorem uncommented_member : member n.uncommented = member n := by
  rw [member, member, uncommented_construct n plain, uncommented_key n plain,
    uncommented_annotated n plain inner, uncommented_token n plain, uncommented_describe n plain]

theorem uncommented_members : members n.uncommented = members n := by
  rw [members_eq, members_eq, uncommented_parts, List.map_map]
  apply List.map_congr_left
  intro c part
  have inside := part_inner c n part
  exact uncommented_member c (plain_inside c n plain (inner_nodes c n inside))
    (deeper_inner n inner c inside)

end Inner

theorem uncommented_type (n : Node) (plain : n.PlainComments) :
    ofNode n.uncommented = ofNode n := by
  induction n using Node.by_inner with
  | step n ih =>
      have inner (d : Node) (inside : d ∈ n.innerNodes) : ofNode d.uncommented = ofNode d :=
        ih d inside (plain_inside d n plain (inner_nodes d n inside))
      have element : n.uncommented.firstPart?.map (fun c => TypeExpr.array (ofNode c)) =
          n.firstPart?.map fun c => TypeExpr.array (ofNode c) := by
        have first := congrArg (Option.map TypeExpr.array) (uncommented_first_type n inner)
        rwa [Option.map_map, Option.map_map] at first
      rw [of_node_eq, of_node_eq, uncommented_construct n plain, uncommented_quote,
        uncommented_kind, uncommented_literal n plain, uncommented_name, element,
        uncommented_union n inner, uncommented_of_parts n inner,
        uncommented_signature n plain inner, uncommented_members n plain inner,
        uncommented_describe n plain, uncommented_arguments n plain inner,
        uncommented_field n plain]
      cases n.field? "name" with
      | none => rfl
      | some name => simp only [Option.map_some, uncommented_name]

end TypeExpr

namespace TypeExpr

open Node

-- The same, once the nodes inside are known to read the same.
theorem inner_types (n : Node) (plain : n.PlainComments) (d : Node) (inside : d ∈ n.innerNodes) :
    ofNode d.uncommented = ofNode d :=
  uncommented_type d (plain_inside d n plain (inner_nodes d n inside))

end TypeExpr

namespace Content

open Node

theorem uncommented_specifier (n : Node) (plain : n.PlainComments) :
    namedSpecifier n.uncommented = namedSpecifier n := by
  unfold namedSpecifier
  rw [uncommented_field n plain, uncommented_field n plain, uncommented_token n plain]
  cases n.field? "name" with
  | none => rfl
  | some name =>
      cases n.field? "alias" with
      | none => simp only [Option.map_some, Option.map_none, uncommented_text]
      | some renamed => simp only [Option.map_some, uncommented_text]

theorem uncommented_specifiers (n : Node) (plain : n.PlainComments) :
    specifiers n.uncommented = specifiers n := by
  have listed : n.uncommented.parts.map namedSpecifier = n.parts.map namedSpecifier := by
    rw [uncommented_parts, List.map_map]
    apply List.map_congr_left
    intro c part
    exact uncommented_specifier c (plain_inside c n plain (part_mem_nodes c n part))
  unfold specifiers
  rw [listed, uncommented_kind, uncommented_text, uncommented_first_part]
  cases n.firstPart? with
  | none => rfl
  | some name => simp only [Option.map_some, uncommented_text]

theorem uncommented_of_clause (kind : ImportKind) (source : String) (n : Node)
    (plain : n.PlainComments) : ofClause kind source n.uncommented = ofClause kind source n := by
  have listed : n.uncommented.parts.flatMap specifiers = n.parts.flatMap specifiers := by
    rw [uncommented_parts, List.flatMap_map]
    apply List.flatMap_congr
    intro c part
    exact uncommented_specifiers c (plain_inside c n plain (part_mem_nodes c n part))
  unfold ofClause
  rw [listed]

theorem uncommented_import (n : Node) (plain : n.PlainComments) :
    ofImport n.uncommented = ofImport n := by
  unfold ofImport
  rw [uncommented_child_of_kind n "import_clause" (by decide), uncommented_field n plain,
    uncommented_token n plain]
  cases found : n.childOfKind? "import_clause" with
  | none => rfl
  | some clause =>
      have inside := child_mem_nodes clause clause n (List.mem_of_find?_eq_some found)
        (self_mem_nodes clause)
      cases n.field? "source" with
      | none => rfl
      | some module =>
          simp only [Option.map_some, uncommented_text,
            uncommented_of_clause _ _ clause (plain_inside clause n plain inside)]

theorem uncommented_declared (n : Node) (plain : n.PlainComments) :
    declared n.uncommented = declared n := by
  unfold declared
  rw [uncommented_field n plain,
    TypeExpr.uncommented_annotated n plain (TypeExpr.inner_types n plain)]
  cases found : n.field? "name" with
  | none => rfl
  | some name =>
      have inside := plain_inside name n plain (field_mem_nodes name n _ found)
      simp only [Option.map_some, uncommented_construct name inside, uncommented_text,
        uncommented_kind]

theorem uncommented_variables (n : Node) (plain : n.PlainComments) :
    ofVariables n.uncommented = ofVariables n := by
  have kinds : ((fun c : Node => decide (c.kind = "variable_declarator")) ∘ uncommented) =
      fun c => decide (c.kind = "variable_declarator") := by
    funext c
    simp
  have listed : (n.uncommented.parts.filter fun c => c.kind = "variable_declarator").map declared =
      (n.parts.filter fun c => c.kind = "variable_declarator").map declared := by
    rw [uncommented_parts, List.filter_map, kinds, List.map_map]
    apply List.map_congr_left
    intro c member
    have part := (List.mem_filter.mp member).1
    exact uncommented_declared c (plain_inside c n plain (part_mem_nodes c n part))
  unfold ofVariables
  dsimp only
  rw [listed]

theorem uncommented_alias (n : Node) (plain : n.PlainComments) :
    ofTypeAlias n.uncommented = ofTypeAlias n := by
  unfold ofTypeAlias
  rw [uncommented_field n plain, uncommented_field n plain,
    TypeExpr.uncommented_type_params n plain (TypeExpr.inner_types n plain)]
  cases n.field? "name" with
  | none => rfl
  | some name =>
      cases found : n.field? "value" with
      | none => rfl
      | some value =>
          have inside := plain_inside value n plain (field_mem_nodes value n _ found)
          simp only [Option.map_some, uncommented_text, TypeExpr.uncommented_type value inside]

theorem uncommented_function (n : Node) (plain : n.PlainComments) :
    ofFunction n.uncommented = ofFunction n := by
  unfold ofFunction
  rw [uncommented_field n plain,
    TypeExpr.uncommented_signature n plain (TypeExpr.inner_types n plain)]
  cases n.field? "name" with
  | none => rfl
  | some name => simp only [Option.map_some, uncommented_text]

theorem uncommented_export_assignment (n : Node) (plain : n.PlainComments) :
    ofExportAssignment n.uncommented = ofExportAssignment n := by
  unfold ofExportAssignment
  rw [uncommented_field n plain, uncommented_token n plain]
  cases found : n.field? "value" with
  | none => rfl
  | some value =>
      have inside := plain_inside value n plain (field_mem_nodes value n _ found)
      simp only [Option.map_some, uncommented_construct value inside, uncommented_text]

theorem uncommented_content (n : Node) (plain : n.PlainComments) :
    ofBody n.uncommented = ofBody n := by
  unfold ofBody
  rw [uncommented_construct n plain, uncommented_import n plain,
    uncommented_export_assignment n plain, uncommented_variables n plain,
    uncommented_alias n plain, uncommented_function n plain, uncommented_describe n plain]

end Content

namespace Node

theorem uncommented_ambient (n : Node) :
    n.uncommented.ambientBody = n.ambientBody.uncommented := by
  unfold ambientBody
  rw [uncommented_kind, uncommented_first_part]
  split
  · cases n.firstPart? with
    | none => rfl
    | some inner =>
        simp only [Option.map_some, uncommented_kind]
        split <;> rfl
  · rfl

theorem uncommented_exported (n : Node) (plain : n.PlainComments) :
    n.uncommented.exportedPart? = n.exportedPart?.map uncommented := by
  unfold exportedPart?
  rw [uncommented_kind, uncommented_field n plain]
  split <;> rfl

theorem uncommented_statement (n : Node) (plain : n.PlainComments) : n.uncommented.statement =
    ⟨n.uncommented, n.statement.body.uncommented, n.statement.exported⟩ := by
  unfold statement
  rw [uncommented_exported n plain, uncommented_token n plain]
  cases n.exportedPart? with
  | none => simp only [Option.map_none, uncommented_ambient]
  | some inner => simp only [Option.map_some, uncommented_ambient]

end Node

end FlowDefs
