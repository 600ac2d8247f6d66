import FlowDefs.Proofs.Lists
import FlowDefs.Proofs.Syntax.Subtree
import FlowDefs.TypeScript.Statement
set_option autoImplicit false

namespace FlowDefs

namespace Node

-- The kinds of nodes whose construct depends on more than the kind.
def refinedKinds : List String := [
  "import_statement", "export_statement", "predefined_type", "literal_type", "type_identifier",
  "object_type", "required_parameter", "optional_parameter", "number", "method_signature"]

theorem construct_of_kind (n : Node) (kind : String) (c : Construct) (same : n.kind = kind)
    (plain : kind ∉ refinedKinds) (found : Construct.ofKind.lookup kind = some c) :
    n.construct = c := by
  subst same
  rw [construct, Construct.ofNode]
  split
  case h_11 => rw [found, Option.getD_some]
  all_goals
    next kind =>
      rw [kind] at plain
      exact absurd plain (by decide)

theorem name_segments_eq (n : Node) :
    n.nameSegments = if n.isDotted then n.parts.flatMap nameSegments else [n.text] := by
  rw [nameSegments]
  split
  · rw [List.flatMap_subtype (g := nameSegments) fun _ _ => rfl, List.unattach_attach]
  · rfl

theorem ambient_body_mem (n : Node) : n.ambientBody ∈ n.nodes := by
  unfold ambientBody
  split
  · split
    · next inner first =>
        split
        · exact self_mem_nodes n
        · exact first_part_mem_nodes inner n first
    · exact self_mem_nodes n
  · exact self_mem_nodes n

theorem statement_body_mem (n : Node) : n.statement.body ∈ n.nodes := by
  unfold statement
  split
  · next inner exported =>
      have deeper : inner ∈ n.nodes := by
        unfold exportedPart? at exported
        split at exported
        · exact field_mem_nodes inner n _ exported
        · cases exported
      exact nodes_trans _ inner n (ambient_body_mem inner) deeper
  · exact ambient_body_mem n

theorem statement_node (n : Node) : n.statement.node = n := by
  unfold statement
  split <;> rfl

end Node

namespace TypeExpr

theorem of_parts_eq (n : Node) : ofParts n = n.parts.map ofNode := by
  rw [ofParts]
  simp

theorem union_members_eq (n : Node) : unionMembers n =
    n.parts.flatMap fun c => if c.kind = "union_type" then unionMembers c else [ofNode c] := by
  rw [unionMembers, List.flatMap_subtype
    (g := fun c => if c.kind = "union_type" then unionMembers c else [ofNode c]) fun _ _ => rfl,
    List.unattach_attach]

theorem type_arguments_eq (n : Node) :
    typeArguments n = ((n.field? "type_arguments").map ofParts).getD [] := by
  rw [typeArguments]
  split <;> simp [*]

theorem annotated_eq (n : Node) (field : String) :
    annotated n field = (n.field? field).map ofAnnotated := by
  rw [annotated]
  split <;> simp [*]

theorem clause_type_eq (n : Node) (field : String) :
    clauseType n field = (n.field? field).bind fun clause => clause.firstPart?.map ofNode := by
  rw [clauseType]
  split
  · split <;> simp [*]
  · simp [*]

theorem type_params_eq (n : Node) : typeParams n = (n.field? "type_parameters").map fun list =>
    list.parts.filterMap fun c =>
      if c.kind = "type_parameter" then some (typeParam c) else none := by
  rw [typeParams]
  split
  · simp only [*, Option.map_some]
    rw [List.filterMap_subtype
      (g := fun c => if c.kind = "type_parameter" then some (typeParam c) else none)
      fun _ _ => rfl, List.unattach_attach]
  · simp only [*, Option.map_none]

theorem params_eq (n : Node) :
    params n = ((n.field? "parameters").map fun list => list.parts.map param).getD [] := by
  rw [params]
  split
  · simp [*]
  · simp [*]

theorem members_eq (n : Node) : members n = n.parts.map member := by
  rw [members]
  simp

theorem of_annotated_eq (n : Node) : ofAnnotated n =
    if n.isAnnotating then (n.firstPart?.map ofNode).getD (.invalid n.quote .annotationWithoutType)
    else ofNode n := by
  rw [ofAnnotated]
  split
  · split <;> simp [*]
  · rfl

theorem of_node_eq (n : Node) : ofNode n = match n.construct.typeForm with
    | .keyword word => .keyword word
    | .literal => ofLiteral n
    | .reference =>
      if n.kind = "generic_type" then
        match n.field? "name" with
        | some name => .reference n.quote name.qualifiedName (typeArguments n)
        | none => .invalid n.quote .namelessReference
      else .reference n.quote n.qualifiedName []
    | .union => .union (unionMembers n)
    | .array => (n.firstPart?.map fun element => TypeExpr.array (ofNode element)).getD
        (.invalid n.quote .arrayWithoutElement)
    | .tuple => .tuple (ofParts n)
    | .function => .function (signature n)
    | .object => .object n.quote (untilFault (members n)).1 (untilFault (members n)).2
    | .unsupported => .unsupported n.quote n.construct
    | .unexpected => .invalid n.quote (.unexpectedType n.describe) := by
  rw [ofNode]
  cases n.construct.typeForm with
  | array =>
      dsimp only
      split <;> simp [*]
  | _ => rfl

-- What is read of a node is read off nodes inside it.

theorem union_member_node (n : Node) (t : TypeExpr) (member : t ∈ unionMembers n) :
    ∃ d ∈ n.innerNodes, d.kind ≠ "union_type" ∧ t = ofNode d := by
  induction n using Node.by_inner with
  | step n ih =>
      rw [union_members_eq, List.mem_flatMap] at member
      obtain ⟨c, part, member⟩ := member
      have inner := Node.part_inner c n part
      by_cases nested : c.kind = "union_type"
      · rw [if_pos nested] at member
        obtain ⟨d, deeper, kind, same⟩ := ih c inner member
        exact ⟨d, Node.inner_trans d c n deeper inner, kind, same⟩
      · rw [if_neg nested] at member
        exact ⟨c, inner, nested, List.mem_singleton.mp member⟩

theorem part_node (n : Node) (t : TypeExpr) (member : t ∈ ofParts n) :
    ∃ d ∈ n.innerNodes, t = ofNode d := by
  rw [of_parts_eq] at member
  obtain ⟨c, part, same⟩ := List.mem_map.mp member
  exact ⟨c, Node.part_inner c n part, same.symm⟩

theorem type_argument_node (n : Node) (t : TypeExpr) (member : t ∈ typeArguments n) :
    ∃ d ∈ n.innerNodes, t = ofNode d := by
  rw [type_arguments_eq] at member
  cases found : n.field? "type_arguments" with
  | none => simp [found] at member
  | some list =>
      simp only [found, Option.map_some, Option.getD_some] at member
      obtain ⟨d, deeper, same⟩ := part_node list t member
      exact ⟨d, Node.inner_trans d list n deeper (Node.field_inner list n _ found), same⟩

theorem annotation_node (n : Node) (field : String) (t : TypeExpr)
    (read : annotated n field = some t) : ∃ c ∈ n.innerNodes, t = ofAnnotated c := by
  rw [annotated_eq] at read
  obtain ⟨c, found, same⟩ := Option.map_eq_some_iff.mp read
  exact ⟨c, Node.field_inner c n field found, same.symm⟩

theorem clause_node (n : Node) (field : String) (t : TypeExpr)
    (read : clauseType n field = some t) : ∃ d ∈ n.innerNodes, t = ofNode d := by
  rw [clause_type_eq] at read
  obtain ⟨clause, found, read⟩ := Option.bind_eq_some_iff.mp read
  obtain ⟨d, first, same⟩ := Option.map_eq_some_iff.mp read
  have deeper := Node.first_part_inner d clause first
  exact ⟨d, Node.inner_trans d clause n deeper (Node.field_inner clause n field found), same.symm⟩

theorem type_param_node (n : Node) (p : TypeParam TypeExpr)
    (member : p ∈ (typeParams n).getD []) : ∃ c ∈ n.innerNodes, p = typeParam c := by
  rw [type_params_eq] at member
  cases found : n.field? "type_parameters" with
  | none => simp [found] at member
  | some list =>
      simp only [found, Option.map_some, Option.getD_some] at member
      obtain ⟨c, part, same⟩ := List.mem_filterMap.mp member
      have upper := Node.field_inner list n _ found
      by_cases kind : c.kind = "type_parameter"
      · rw [if_pos kind, Option.some.injEq] at same
        exact ⟨c, Node.inner_trans c list n (Node.part_inner c list part) upper, same.symm⟩
      · rw [if_neg kind] at same
        cases same

theorem param_node (n : Node) (form : ParamForm) (member : form ∈ params n) :
    ∃ c ∈ n.innerNodes, form = param c := by
  rw [params_eq] at member
  cases found : n.field? "parameters" with
  | none => simp [found] at member
  | some list =>
      simp only [found, Option.map_some, Option.getD_some] at member
      obtain ⟨c, part, same⟩ := List.mem_map.mp member
      have upper := Node.field_inner list n _ found
      exact ⟨c, Node.inner_trans c list n (Node.part_inner c list part) upper, same.symm⟩

theorem property_node (n : Node) (p : Property TypeExpr)
    (read : p ∈ (untilFault (members n)).1) : ∃ c ∈ n.innerNodes, member c = .ok p := by
  have listed := mem_of_until_fault (members n) p read
  rw [members_eq] at listed
  obtain ⟨c, part, same⟩ := List.mem_map.mp listed
  exact ⟨c, Node.part_inner c n part, same⟩

end TypeExpr

end FlowDefs
