import FlowDefs.Proofs.TypeScript.Soundness
set_option autoImplicit false

namespace FlowDefs.TypeExpr

-- What is read at a place inside a node, or put there where nothing is written.
inductive ReadInside (n : Node) : TypeExpr → Prop where
  | node (d : Node) (inside : d ∈ n.innerNodes) : ReadInside n (ofNode d)
  | untyped (quote : Quote) (fault : Fault) : ReadInside n (.invalid quote fault)
  | any : ReadInside n (.keyword .any)
  | many : ReadInside n (.array (.keyword .any))

theorem read_deeper (n c : Node) (inside : c ∈ n.innerNodes) (t : TypeExpr)
    (read : ReadInside c t) : ReadInside n t := by
  cases read with
  | node d deeper => exact .node d (Node.inner_trans d c n deeper inside)
  | untyped quote fault => exact .untyped quote fault
  | any => exact .any
  | many => exact .many

theorem annotated_read (n : Node) (field : String) (default : TypeExpr)
    (fallback : ReadInside n default) : ReadInside n ((annotated n field).getD default) := by
  cases read : annotated n field with
  | none => exact fallback
  | some t =>
      obtain ⟨c, inside, rfl⟩ := annotation_node n field t read
      rw [Option.getD_some, of_annotated_eq]
      by_cases annotating : c.isAnnotating = true
      · rw [if_pos annotating]
        cases first : c.firstPart? with
        | none => exact .untyped _ _
        | some d => exact .node d (Node.inner_trans d c n (Node.first_part_inner d c first) inside)
      · rw [if_neg annotating]
        exact .node c inside

theorem type_params_read (n : Node) (t : TypeExpr) (member : t ∈ typesOfParams (typeParams n)) :
    ReadInside n t := by
  obtain ⟨p, listed, inside⟩ := List.mem_flatMap.mp member
  obtain ⟨c, deeper, rfl⟩ := type_param_node n p listed
  have clause (field : String) (read : clauseType c field = some t) : ReadInside n t := by
    obtain ⟨d, deepest, rfl⟩ := clause_node c field t read
    exact .node d (Node.inner_trans d c n deepest deeper)
  rw [typeParam, TypeParam.types, List.mem_append, Option.mem_toList, Option.mem_toList] at inside
  rcases inside with bound | default
  · exact clause _ bound
  · exact clause _ default

theorem form_read (n : Node) (form : ParamForm) (member : form ∈ params n) :
    ReadInside n form.param.type := by
  obtain ⟨c, deeper, rfl⟩ := param_node n form member
  apply read_deeper n c deeper
  rw [param]
  cases c.field? "pattern" with
  | none => exact annotated_read c "type" _ .any
  | some pattern =>
      dsimp only
      split
      · exact annotated_read c "type" _ .many
      · exact annotated_read c "type" _ .any

theorem signature_read (n : Node) (t : TypeExpr) (member : t ∈ (signature n).types) :
    ReadInside n t := by
  rw [signature] at member
  simp only [Signature.types, List.mem_append, List.mem_map, List.mem_singleton,
    Option.mem_toList] at member
  rcases member with ((listed | ⟨p, listed, rfl⟩) | ⟨p, listed, rfl⟩) | rfl
  · exact type_params_read n t listed
  · exact form_read n _ ((mem_split_rest (params n) p).1 listed)
  · exact form_read n _ ((mem_split_rest (params n) p).2 listed)
  · exact annotated_read n _ _ .any

theorem member_read (n : Node) (p : Property TypeExpr) (read : member n = .ok p) :
    n.propertyKey = .ok p.key ∧ p.value = (annotated n "type").getD (.keyword .any) := by
  rw [member] at read
  split at read
  · cases known : n.propertyKey with
    | error fault =>
        rw [known] at read
        cases read
    | ok key =>
        rw [known] at read
        cases read
        exact ⟨rfl, rfl⟩
  · split at read <;> cases read

theorem part_read (n : Node) (t : TypeExpr) (part : t ∈ (ofNode n).parts) : ReadInside n t := by
  rw [of_node_eq] at part
  cases form : n.construct.typeForm with
  | literal =>
      rw [form] at part
      have reading := of_literal_reading n n (Node.self_mem_nodes n)
      dsimp only at part
      generalize ofLiteral n = read at reading part
      cases reading <;> cases part
  | reference =>
      rw [form] at part
      dsimp only at part
      split at part
      · split at part
        · obtain ⟨d, deeper, rfl⟩ := type_argument_node n t part
          exact .node d deeper
        · cases part
      · cases part
  | union =>
      rw [form] at part
      obtain ⟨d, deeper, _, rfl⟩ := union_member_node n t part
      exact .node d deeper
  | array =>
      rw [form] at part
      dsimp only at part
      cases first : n.firstPart? with
      | none =>
          rw [first] at part
          cases part
      | some c =>
          rw [first] at part
          rw [List.mem_singleton.mp part]
          exact .node c (Node.first_part_inner c n first)
  | tuple =>
      rw [form] at part
      obtain ⟨d, deeper, rfl⟩ := part_node n t part
      exact .node d deeper
  | function =>
      rw [form] at part
      exact signature_read n t part
  | object =>
      rw [form] at part
      obtain ⟨p, listed, rfl⟩ := List.mem_map.mp part
      obtain ⟨c, deeper, read⟩ := property_node n p listed
      apply read_deeper n c deeper
      rw [(member_read c p read).2]
      exact annotated_read c _ _ .any
  | _ =>
      rw [form] at part
      cases part

theorem declaration_read (body : Node) (d : Declaration TypeExpr)
    (content : Content.ofBody body = .declaration d) (t : TypeExpr) (member : t ∈ d.types) :
    ReadInside body t := by
  rcases Content.declaration_cases body d content with
    ⟨names, rfl, read⟩ | ⟨id, value, rfl, found⟩ | ⟨id, rfl⟩
  · obtain ⟨v, listed, typed⟩ := List.mem_flatMap.mp member
    obtain ⟨c, part, same⟩ := read v listed
    have annotation := annotated_read c "type" _ .any
    rw [Option.mem_toList, Content.declared_type c v same] at typed
    rw [typed] at annotation
    exact read_deeper body c (Node.part_inner c body part) t annotation
  · rcases List.mem_append.mp member with param | right
    · exact type_params_read body t param
    · rw [List.mem_singleton.mp right]
      exact .node value (Node.field_inner value body _ found)
  · exact signature_read body t member

end FlowDefs.TypeExpr
