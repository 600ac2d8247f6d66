import FlowDefs.Proofs.Declaration.Types
import FlowDefs.Proofs.Lists
import FlowDefs.Proofs.TypeScript.Reading
set_option autoImplicit false

namespace FlowDefs

def Node.isNegated (n : Node) : Prop :=
  n.hasToken "-" = true ∨ ∃ operator, n.field? "operator" = some operator ∧ operator.text = "-"

-- The digits of a signed literal stand below it, apart from the sign.
def Literal.Spelled (source : Node) : Literal → Prop
  | .null => True
  | .boolean value raw => raw = if value then "true" else "false"
  | .number value raw => Number.readLiteral raw = some value ∨
      ∃ signed ∈ source.nodes, ∃ digits ∈ signed.children, ∃ magnitude,
        signed.isNegated ∧ signed.text = raw ∧
          Number.readLiteral digits.text = some magnitude ∧ value = magnitude.neg
  | .string value raw => Text.decodeString raw = some value

def PropertyKey.Spelled : PropertyKey → Prop
  | .identifier _ => True
  | .string value raw => Text.decodeString raw = some value

theorem union_kind (n : Node) (union : n.construct = .unionType) : n.kind = "union_type" := by
  have keyword : ∀ entry ∈ Construct.keywords, entry.2 ≠ .unionType := by decide
  have only : ∀ entry ∈ Construct.ofKind, entry.2 = .unionType → entry.1 = "union_type" := by decide
  unfold Node.construct Construct.ofNode at union
  split at union
  · split at union <;> cases union
  · unfold Construct.ofExport at union
    repeat' split at union
    all_goals cases union
  · exact absurd rfl (keyword _ (lookup_default _ _ _ _ union nofun))
  · split at union <;> cases union
  · split at union <;> cases union
  · split at union <;> cases union
  · split at union <;> cases union
  · split at union <;> cases union
  · split at union <;> cases union
  · repeat' split at union
    all_goals cases union
  · exact only _ (lookup_default _ _ _ _ union nofun) rfl

namespace TypeExpr

def Quoted (source : Node) (quote : Quote) : Prop := ∃ d ∈ source.nodes, quote = d.quote

-- What a type satisfies by itself, whatever its parts are.
def Sound (source : Node) : TypeExpr → Prop
  | .literal value => value.Spelled source
  | .reference quote _ _ => Quoted source quote
  | .union members => ∀ members' : List TypeExpr, .union members' ∉ members
  | .function signature => ∀ p ∈ signature.rest, p.optional = false
  | .object quote properties _ => Quoted source quote ∧ ∀ p ∈ properties, p.key.Spelled
  | .unsupported quote _ => Quoted source quote
  | .invalid quote _ => Quoted source quote
  | _ => True

inductive Faithful (source : Node) : TypeExpr → Prop where
  | intro (t : TypeExpr) (sound : t.Sound source) (parts : ∀ p ∈ t.parts, Faithful source p) :
      Faithful source t

theorem faithful_leaf (source : Node) (t : TypeExpr) (sound : t.Sound source)
    (leaf : t.parts = []) : Faithful source t :=
  .intro t sound fun p member => by rw [leaf] at member; cases member

theorem faithful_any (source : Node) : Faithful source (.keyword .any) :=
  faithful_leaf source _ trivial rfl

theorem faithful_any_array (source : Node) : Faithful source (.array (.keyword .any)) := by
  refine .intro _ trivial ?_
  intro p member
  rw [List.mem_singleton.mp member]
  exact faithful_any source

theorem faithful_invalid (source n : Node) (inside : n ∈ source.nodes) (fault : Fault) :
    Faithful source (.invalid n.quote fault) :=
  faithful_leaf source _ ⟨n, inside, rfl⟩ rfl

-- A literal type is read as the literal or not at all.
inductive LiteralReading (source type : Node) : TypeExpr → Prop where
  | spelled (value : Literal) (spelled : value.Spelled source) :
      LiteralReading source type (.literal value)
  | faulty (fault : Fault) : LiteralReading source type (.invalid type.quote fault)

theorem of_digits_reading (source type : Node) (digits : String) (signed : Option String)
    (spelled : ∀ value, Number.readLiteral digits = some value →
      (Literal.number ((signed.map fun _ => value.neg).getD value)
        (signed.getD digits)).Spelled source) :
    LiteralReading source type (ofDigits type digits signed) := by
  unfold ofDigits
  split
  · next value raw read => exact .spelled _ (spelled value read)
  · next value read => exact .spelled _ (spelled value read)
  · exact .faulty _

theorem of_plain_reading (source type : Node) (digits : String) :
    LiteralReading source type (ofDigits type digits none) :=
  of_digits_reading source type digits none fun _ read => .inl read

theorem of_negative_reading (source type signed digits : Node) (written : signed ∈ source.nodes)
    (child : digits ∈ signed.children) (negated : signed.isNegated) :
    LiteralReading source type (ofDigits type digits.text (some signed.text)) :=
  of_digits_reading source type digits.text (some signed.text) fun magnitude read =>
    .inr ⟨signed, written, digits, child, magnitude, negated, rfl, read, rfl⟩

theorem of_signed_reading (source type value : Node) (written : value ∈ source.nodes) :
    LiteralReading source type (ofSigned type value) := by
  have child (argument : Node)
      (found : (value.field? "argument" <|> value.firstPart?) = some argument) :
      argument ∈ value.children := by
    cases field : value.field? "argument" with
    | none =>
        rw [field] at found
        exact Node.child_of_first_part argument value found
    | some named =>
        rw [field] at found
        cases found
        exact Node.child_of_field argument value _ field
  unfold ofSigned
  extract_lets negative
  have negated (minus : negative = true) : value.isNegated := by
    unfold negative at minus
    split at minus
    · next operator found => exact .inr ⟨operator, found, of_decide_eq_true minus⟩
    · exact .inl minus
  split
  · next argument found =>
      split
      · next both =>
          exact of_negative_reading source type value argument written
            (child argument found) (negated (Bool.and_eq_true_iff.mp both).1)
      · exact .faulty _
  · exact .faulty _

theorem of_numeric_reading (source type value : Node) (written : value ∈ source.nodes) :
    LiteralReading source type (ofNumeric type value) := by
  unfold ofNumeric
  split
  · next digits first =>
      split
      · next minus =>
          exact of_negative_reading source type value digits written
            (Node.child_of_first_part digits value first) (.inl minus)
      · exact of_plain_reading source type value.text
  · exact of_plain_reading source type value.text

theorem of_literal_reading (source type : Node) (inside : type ∈ source.nodes) :
    LiteralReading source type (ofLiteral type) := by
  unfold ofLiteral
  split
  · exact .faulty _
  · next node first =>
      have written : node ∈ source.nodes :=
        Node.nodes_trans node type source (Node.first_part_mem_nodes node type first) inside
      split
      · exact .spelled _ trivial
      · exact .spelled _ rfl
      · exact .spelled _ rfl
      · exact of_numeric_reading source type node written
      · exact of_signed_reading source type node written
      · split
        · next value decoded => exact .spelled _ decoded
        · exact .faulty _
      · exact .faulty _

theorem of_literal_faithful (source type : Node) (inside : type ∈ source.nodes) :
    Faithful source (ofLiteral type) := by
  have reading := of_literal_reading source type inside
  generalize ofLiteral type = t at reading ⊢
  cases reading with
  | spelled value spelled => exact faithful_leaf source _ spelled rfl
  | faulty fault => exact faithful_invalid source type inside fault

-- A type is a union only if it is written as one.
theorem of_node_flat (n : Node) (other : n.kind ≠ "union_type") (members : List TypeExpr) :
    ofNode n ≠ .union members := by
  intro same
  rw [of_node_eq] at same
  cases form : n.construct.typeForm with
  | union =>
      have construct : n.construct = .unionType := by
        cases construct : n.construct <;> simp_all [Construct.typeForm]
      exact other (union_kind n construct)
  | literal =>
      rw [form] at same
      have reading := of_literal_reading n n (Node.self_mem_nodes n)
      rw [show ofLiteral n = .union members from same] at reading
      cases reading
  | array =>
      rw [form] at same
      dsimp only at same
      cases first : n.firstPart? <;> rw [first] at same <;> cases same
  | reference =>
      rw [form] at same
      dsimp only at same
      repeat' split at same
      all_goals cases same
  | _ =>
      rw [form] at same
      cases same

def ParamForm.param : ParamForm → Param TypeExpr
  | .plain param => param
  | .rest param => param

theorem mem_split_rest (forms : List ParamForm) (p : Param TypeExpr) :
    (p ∈ (splitRest forms).1 → .plain p ∈ forms) ∧
      ((splitRest forms).2 = some p → .rest p ∈ forms) := by
  induction forms with
  | nil => exact ⟨nofun, nofun⟩
  | cons form forms ih =>
      cases form with
      | rest first =>
          refine ⟨nofun, ?_⟩
          intro same
          cases same
          exact List.mem_cons_self
      | plain first =>
          refine ⟨?_, ?_⟩
          · intro member
            rcases List.mem_cons.mp member with rfl | later
            · exact List.mem_cons_self
            · exact List.mem_cons_of_mem _ (ih.1 later)
          · intro found
            exact List.mem_cons_of_mem _ (ih.2 found)

theorem rest_required (n : Node) (p : Param TypeExpr) (rest : param n = .rest p) :
    p.optional = false := by
  rw [param] at rest
  repeat' split at rest
  all_goals cases rest
  rfl

theorem signature_rest_required (n : Node) (p : Param TypeExpr)
    (rest : (signature n).rest = some p) : p.optional = false := by
  rw [signature] at rest
  obtain ⟨c, _, same⟩ := param_node n _ ((mem_split_rest (params n) p).2 rest)
  exact rest_required c p same.symm

theorem property_key_spelled (n : Node) (key : PropertyKey) (read : n.propertyKey = .ok key) :
    key.Spelled := by
  unfold Node.propertyKey at read
  split at read
  · cases read
  · split at read
    · cases read
      exact trivial
    · split at read
      · next value decoded =>
          cases read
          exact decoded
      · cases read
    · cases read

section Inner

-- The readings of the nodes inside a node, from which its own is put together.
variable (source n : Node) (inner : ∀ d ∈ n.innerNodes, Faithful source (ofNode d))

include inner

theorem deeper_faithful (c : Node) (inside : c ∈ n.innerNodes) :
    ∀ d ∈ c.innerNodes, Faithful source (ofNode d) :=
  fun d deeper => inner d (Node.inner_trans d c n deeper inside)

theorem of_annotated_faithful (inside : n ∈ source.nodes) (self : Faithful source (ofNode n)) :
    Faithful source (ofAnnotated n) := by
  rw [of_annotated_eq]
  by_cases annotating : n.isAnnotating = true
  · rw [if_pos annotating]
    cases first : n.firstPart? with
    | none => exact faithful_invalid source n inside _
    | some c => exact inner c (Node.first_part_inner c n first)
  · rw [if_neg annotating]
    exact self

theorem annotated_faithful (inside : n ∈ source.nodes) (field : String) (default : TypeExpr)
    (fallback : Faithful source default) :
    Faithful source ((annotated n field).getD default) := by
  cases read : annotated n field with
  | none => exact fallback
  | some t =>
      obtain ⟨c, deeper, rfl⟩ := annotation_node n field t read
      have written := Node.inner_mem_nodes c n source deeper inside
      exact of_annotated_faithful source c (deeper_faithful source n inner c deeper) written
        (inner c deeper)

theorem type_param_faithful (t : TypeExpr) (member : t ∈ (typeParam n).types) :
    Faithful source t := by
  have clause (field : String) (read : clauseType n field = some t) : Faithful source t := by
    obtain ⟨d, deeper, rfl⟩ := clause_node n field t read
    exact inner d deeper
  rw [typeParam, TypeParam.types, List.mem_append, Option.mem_toList, Option.mem_toList] at member
  rcases member with bound | default
  · exact clause _ bound
  · exact clause _ default

theorem type_params_faithful (t : TypeExpr) (member : t ∈ typesOfParams (typeParams n)) :
    Faithful source t := by
  obtain ⟨p, listed, inside⟩ := List.mem_flatMap.mp member
  obtain ⟨c, deeper, rfl⟩ := type_param_node n p listed
  exact type_param_faithful source c (deeper_faithful source n inner c deeper) t inside

theorem param_faithful (inside : n ∈ source.nodes) : Faithful source (param n).param.type := by
  have any := annotated_faithful source n inner inside "type" _ (faithful_any source)
  have many := annotated_faithful source n inner inside "type" _ (faithful_any_array source)
  rw [param]
  cases n.field? "pattern" with
  | none => exact any
  | some pattern =>
      dsimp only
      split
      · exact many
      · exact any

theorem form_faithful (inside : n ∈ source.nodes) (form : ParamForm) (member : form ∈ params n) :
    Faithful source form.param.type := by
  obtain ⟨c, deeper, rfl⟩ := param_node n form member
  exact param_faithful source c (deeper_faithful source n inner c deeper)
    (Node.inner_mem_nodes c n source deeper inside)

theorem signature_faithful (inside : n ∈ source.nodes) (t : TypeExpr)
    (member : t ∈ (signature n).types) : Faithful source t := by
  rw [signature] at member
  simp only [Signature.types, List.mem_append, List.mem_map, List.mem_singleton,
    Option.mem_toList] at member
  rcases member with ((listed | ⟨p, listed, rfl⟩) | ⟨p, listed, rfl⟩) | rfl
  · exact type_params_faithful source n inner t listed
  · exact form_faithful source n inner inside _ ((mem_split_rest (params n) p).1 listed)
  · exact form_faithful source n inner inside _ ((mem_split_rest (params n) p).2 listed)
  · exact annotated_faithful source n inner inside _ _ (faithful_any source)

theorem member_faithful (inside : n ∈ source.nodes) (p : Property TypeExpr)
    (read : member n = .ok p) : p.key.Spelled ∧ Faithful source p.value := by
  rw [member] at read
  split at read
  · cases key : n.propertyKey with
    | error fault =>
        rw [key] at read
        cases read
    | ok name =>
        rw [key] at read
        cases read
        exact ⟨property_key_spelled n name key,
          annotated_faithful source n inner inside _ _ (faithful_any source)⟩
  · split at read <;> cases read

theorem property_faithful (inside : n ∈ source.nodes) (p : Property TypeExpr)
    (read : p ∈ (untilFault (members n)).1) : p.key.Spelled ∧ Faithful source p.value := by
  obtain ⟨c, deeper, same⟩ := property_node n p read
  exact member_faithful source c (deeper_faithful source n inner c deeper)
    (Node.inner_mem_nodes c n source deeper inside) p same

end Inner

theorem of_node_faithful (source n : Node) (inside : n ∈ source.nodes) :
    Faithful source (ofNode n) := by
  induction n using Node.by_inner with
  | step n ih =>
      have inner (d : Node) (deeper : d ∈ n.innerNodes) : Faithful source (ofNode d) :=
        ih d deeper (Node.inner_mem_nodes d n source deeper inside)
      have quoted : Quoted source n.quote := ⟨n, inside, rfl⟩
      rw [of_node_eq]
      cases n.construct.typeForm with
      | keyword word => exact faithful_leaf source _ trivial rfl
      | literal => exact of_literal_faithful source n inside
      | reference =>
          dsimp only
          split
          · split
            · refine .intro _ quoted ?_
              intro t member
              obtain ⟨d, deeper, rfl⟩ := type_argument_node n t member
              exact inner d deeper
            · exact faithful_invalid source n inside _
          · exact faithful_leaf source _ quoted rfl
      | union =>
          refine .intro _ ?_ ?_
          · intro members nested
            obtain ⟨d, _, kind, same⟩ := union_member_node n _ nested
            exact of_node_flat d kind members same.symm
          · intro t member
            obtain ⟨d, deeper, _, rfl⟩ := union_member_node n t member
            exact inner d deeper
      | array =>
          cases first : n.firstPart? with
          | none => exact faithful_invalid source n inside _
          | some c =>
              refine .intro _ trivial ?_
              intro t member
              rw [List.mem_singleton.mp member]
              exact inner c (Node.first_part_inner c n first)
      | tuple =>
          refine .intro _ trivial ?_
          intro t member
          obtain ⟨d, deeper, rfl⟩ := part_node n t member
          exact inner d deeper
      | function =>
          exact .intro _ (signature_rest_required n) (signature_faithful source n inner inside)
      | object =>
          have properties := property_faithful source n inner inside
          refine .intro _ ⟨quoted, fun p read => (properties p read).1⟩ ?_
          intro t member
          obtain ⟨p, read, rfl⟩ := List.mem_map.mp member
          exact (properties p read).2
      | unsupported => exact faithful_leaf source _ quoted rfl
      | unexpected => exact faithful_invalid source n inside _

end TypeExpr

namespace Content

theorem declaration_cases (body : Node) (d : Declaration TypeExpr)
    (same : Content.ofBody body = .declaration d) :
    (∃ names, d = .vars names ∧ ∀ v ∈ names, ∃ c ∈ body.parts, declared c = .ok v) ∨
      (∃ id value, d = .typeAlias id (TypeExpr.typeParams body) (TypeExpr.ofNode value) ∧
        body.field? "value" = some value) ∨
      ∃ id, d = .function id (TypeExpr.signature body) := by
  unfold Content.ofBody at same
  split at same
  · unfold ofImport ofClause at same
    repeat' split at same
    all_goals cases same
  · unfold ofExportAssignment at same
    repeat' split at same
    all_goals cases same
  · unfold ofVariables at same
    dsimp only at same
    split at same
    · next read readable =>
        cases same
        refine .inl ⟨read, rfl, ?_⟩
        intro v member
        have listed := mem_of_until_fault _ v (by rw [readable]; exact member)
        obtain ⟨c, part, same⟩ := List.mem_map.mp listed
        exact ⟨c, (List.mem_filter.mp part).1, same⟩
    · cases same
  · unfold ofTypeAlias at same
    split at same
    · cases same
    · next name _ =>
        split at same
        · cases same
        · next value found =>
            cases same
            exact .inr (.inl ⟨name.text, value, rfl, found⟩)
  · unfold ofFunction at same
    split at same
    · cases same
    · next name _ =>
        cases same
        exact .inr (.inr ⟨name.text, rfl⟩)
  · split at same <;> cases same

theorem declared_type (c : Node) (v : Variable TypeExpr) (read : declared c = .ok v) :
    v.type = TypeExpr.annotated c "type" := by
  unfold declared at read
  repeat' split at read
  all_goals cases read
  rfl

theorem declaration_faithful (source body : Node) (inside : body ∈ source.nodes)
    (d : Declaration TypeExpr) (content : Content.ofBody body = .declaration d) (t : TypeExpr)
    (member : t ∈ d.types) : TypeExpr.Faithful source t := by
  have within (c : Node) (deeper : c ∈ body.nodes) :
      ∀ d ∈ c.innerNodes, TypeExpr.Faithful source (TypeExpr.ofNode d) := by
    intro d deepest
    have lower := Node.inner_mem_nodes d c body deepest deeper
    exact TypeExpr.of_node_faithful source d (Node.nodes_trans d body source lower inside)
  rcases declaration_cases body d content with
    ⟨names, rfl, read⟩ | ⟨id, value, rfl, found⟩ | ⟨id, rfl⟩
  · obtain ⟨v, listed, typed⟩ := List.mem_flatMap.mp member
    obtain ⟨c, part, same⟩ := read v listed
    have deeper := Node.part_mem_nodes c body part
    have read := TypeExpr.annotated_faithful source c (within c deeper)
      (Node.nodes_trans c body source deeper inside) "type" _ (TypeExpr.faithful_any source)
    rw [Option.mem_toList, declared_type c v same] at typed
    rwa [typed] at read
  · rcases List.mem_append.mp member with param | right
    · exact TypeExpr.type_params_faithful source body
        (within body (Node.self_mem_nodes body)) t param
    · rw [List.mem_singleton.mp right]
      exact TypeExpr.of_node_faithful source value
        (Node.nodes_trans value body source (Node.field_mem_nodes value body _ found) inside)
  · exact TypeExpr.signature_faithful source body
      (within body (Node.self_mem_nodes body)) inside t member

theorem declared_rest_required (body : Node) (id : String) (signature : Signature TypeExpr)
    (content : Content.ofBody body = .declaration (.function id signature))
    (p : Param TypeExpr) (rest : signature.rest = some p) : p.optional = false := by
  rcases declaration_cases body _ content with ⟨_, same, _⟩ | ⟨_, _, same, _⟩ | ⟨_, same⟩
  · cases same
  · cases same
  · cases same
    exact TypeExpr.signature_rest_required body p rest

end Content

end FlowDefs
