import FlowDefs.Flow.Format
import FlowDefs.Proofs.Flow.Bodies
set_option autoImplicit false

namespace FlowDefs

namespace Json

-- A member with this name that is an array with items.
def fills (name : String) (members : List (String × Json)) : Bool :=
  match members.lookup name with
  | some (.array (_ :: _)) => true
  | _ => false

mutual
-- The objects anywhere in a value whose comments are not empty.
def commented : Json → Nat
  | .array items => commentedItems items
  | .object members => (if fills "comments" members then 1 else 0) + commentedMembers members
  | _ => 0
def commentedItems : List Json → Nat
  | [] => 0
  | x :: xs => commented x + commentedItems xs
def commentedMembers : List (String × Json) → Nat
  | [] => 0
  | (_, x) :: xs => commented x + commentedMembers xs
end

@[simp] theorem commented_string (text : String) : (string text).commented = 0 := rfl

@[simp] theorem commented_bool (value : Bool) : (bool value).commented = 0 := rfl

theorem commented_items_eq (xs : List Json) : commentedItems xs = (xs.map commented).sum := by
  induction xs with
  | nil => rfl
  | cons x xs ih => rw [commentedItems, ih, List.map_cons, List.sum_cons]

theorem commented_array {α : Type} (encode : α → Json) (count : α → Nat) (xs : List α)
    (each : ∀ x ∈ xs, (encode x).commented = count x) :
    (array (xs.map encode)).commented = (xs.map count).sum := by
  rw [commented, commented_items_eq, List.map_map]
  congr 1
  exact List.map_congr_left each

theorem commented_none {α : Type} (encode : α → Json) (xs : List α)
    (each : ∀ x ∈ xs, (encode x).commented = 0) : (array (xs.map encode)).commented = 0 := by
  rw [commented_array encode (fun _ => 0) xs each, List.sum_eq_zero_iff_forall_eq_nat]
  intro n member
  obtain ⟨x, -, rfl⟩ := List.mem_map.mp member
  rfl

theorem commented_option {α : Type} (encode : α → Json) (x : Option α)
    (each : ∀ y ∈ x, (encode y).commented = 0) : (ofOption encode x).commented = 0 := by
  cases x with
  | none => rfl
  | some y => exact each y rfl

end Json

theorem object_commented (members : List (String × Json))
    (absent : members.lookup "comments" = none) :
    (Json.object members).commented = (members.map fun m => m.2.commented).sum := by
  have unfilled : Json.fills "comments" members = false := by rw [Json.fills, absent]
  have summed (ms : List (String × Json)) :
      Json.commentedMembers ms = (ms.map fun m => m.2.commented).sum := by
    induction ms with
    | nil => rfl
    | cons m ms ih => rw [Json.commentedMembers, ih, List.map_cons, List.sum_cons]
  rw [Json.commented, unfilled, summed]
  exact Nat.zero_add _

theorem variant_commented (name : String) (value : Json) (other : name ≠ "comments") :
    (variant name value).commented = value.commented := by
  have absent : ("comments" == name) = false := beq_false_of_ne (Ne.symm other)
  rw [variant, object_commented _ (by rw [List.lookup_cons, absent]; rfl)]
  exact Nat.add_zero _

theorem comments_commented (comments : List Comment) : (Comment.encodeAll comments).commented = 0 :=
  Json.commented_none Comment.encode comments fun _ _ => rfl

theorem encode_literal_commented (value : Json) (raw : String) (flat : value.commented = 0) :
    (encodeLiteral value raw).commented = 0 := by
  rw [encodeLiteral, object_commented _ rfl]
  simp [flat]

theorem literal_commented (value : Literal) : value.encode.commented = 0 := by
  cases value with
  | null => rfl
  | boolean value raw =>
      rw [Literal.encode, variant_commented _ _ (by decide)]
      exact encode_literal_commented _ raw rfl
  | number value raw =>
      rw [Literal.encode, variant_commented _ _ (by decide)]
      apply encode_literal_commented
      unfold encodeNumber
      split <;> rfl
  | string value raw =>
      rw [Literal.encode, variant_commented _ _ (by decide)]
      exact encode_literal_commented _ raw rfl

theorem key_commented (key : PropertyKey) : key.encode.commented = 0 := by
  cases key with
  | identifier name => rw [PropertyKey.encode, variant_commented _ _ (by decide)]; rfl
  | string value raw =>
      rw [PropertyKey.encode, variant_commented _ _ (by decide)]
      exact encode_literal_commented _ raw rfl

namespace FlowType

def encodedCount (t : FlowType) : Nat := t.encode.commented

theorem all_commented (ts : List FlowType) :
    (Json.array (encodeAll ts)).commented = (ts.map encodedCount).sum := by
  have mapped : encodeAll ts = ts.map encode := by
    induction ts with
    | nil => rfl
    | cons t ts ih => rw [encodeAll, ih, List.map_cons]
  rw [mapped]
  exact Json.commented_array encode encodedCount ts fun _ _ => rfl

theorem option_commented (t : Option FlowType) :
    (encodeOption t).commented = (t.toList.map encodedCount).sum := by
  cases t with
  | none => rfl
  | some t => simp [encodeOption, encodedCount]

theorem type_params_commented (params : Option (List (TypeParam FlowType))) :
    (encodeTypeParams params).commented = ((typesOfParams params).map encodedCount).sum := by
  cases params with
  | none => rfl
  | some params =>
      rw [encodeTypeParams, typesOfParams, Option.getD_some, Json.commented]
      induction params with
      | nil => rfl
      | cons p params ih =>
          obtain ⟨name, bound, default⟩ := p
          rw [encodeTypeParamList, Json.commentedItems, ih, object_commented _ rfl]
          simp [option_commented, TypeParam.types, Nat.add_assoc]

theorem param_commented (p : Param FlowType) :
    (encodeParam p).commented = p.type.encodedCount := by
  obtain ⟨name, type, optional⟩ := p
  have named : (Json.ofOption Json.string name).commented = 0 :=
    Json.commented_option _ name fun _ _ => rfl
  rw [encodeParam, object_commented _ rfl]
  simp [named, encodedCount]

theorem signature_commented (s : Signature FlowType) :
    (encodeSignature s).commented = (s.types.map encodedCount).sum := by
  obtain ⟨typeParams, params, rest, result⟩ := s
  have listed : (Json.array (encodeParams params)).commented =
      ((params.map Param.type).map encodedCount).sum := by
    rw [Json.commented]
    induction params with
    | nil => rfl
    | cons p params ih =>
        rw [encodeParams, Json.commentedItems, ih, param_commented, List.map_cons, List.map_cons,
          List.sum_cons]
  have last : (encodeRest rest).commented = ((rest.toList.map Param.type).map encodedCount).sum := by
    cases rest with
    | none => rfl
    | some p => simp [encodeRest, param_commented]
  rw [encodeSignature, object_commented _ rfl]
  simp only [List.map_cons, List.map_nil, List.sum_cons, List.sum_nil, type_params_commented, listed,
    last, Signature.types, List.map_append, List.sum_append, encodedCount, Nat.add_assoc]

theorem properties_commented (properties : List (Property FlowType)) :
    (Json.array (encodeProperties properties)).commented =
      ((properties.map Property.value).map encodedCount).sum := by
  rw [Json.commented]
  induction properties with
  | nil => rfl
  | cons p properties ih =>
      obtain ⟨key, value, optional⟩ := p
      rw [encodeProperties, Json.commentedItems, ih, object_commented _ rfl]
      simp [key_commented, encodedCount]

-- A type's object counts if it has comments; all other counting happens in its parts.
theorem encoded_count_eq (t : FlowType) :
    t.encodedCount = (if t.comments.isEmpty then 0 else 1) + (t.parts.map encodedCount).sum := by
  cases t with
  | primitive word => cases word <;> rfl
  | literal value => exact literal_commented value
  | reference name arguments comments =>
      have arguments_commented : (encodeArguments arguments).commented =
          ((arguments.getD []).map encodedCount).sum := by
        cases arguments with
        | none => rfl
        | some types => exact all_commented types
      have segments : name.encode.commented = 0 :=
        Json.commented_none Json.string name.segments fun _ _ => rfl
      have own : Json.fills "comments" [("id", name.encode), ("type_args", encodeArguments arguments),
          ("comments", Comment.encodeAll comments)] = !comments.isEmpty := by
        cases comments <;> rfl
      rw [encodedCount, encode, variant_commented _ _ (by decide), Json.commented, own]
      simp [Json.commentedMembers, segments, arguments_commented, comments_commented,
        FlowType.comments, parts]
  | union members =>
      rw [encodedCount, encode, variant_commented _ _ (by decide), all_commented]
      exact (Nat.zero_add _).symm
  | array element =>
      rw [encodedCount, encode, variant_commented _ _ (by decide)]
      simp [FlowType.comments, parts, encodedCount]
  | tuple elements =>
      rw [encodedCount, encode, variant_commented _ _ (by decide), all_commented]
      exact (Nat.zero_add _).symm
  | function s =>
      rw [encodedCount, encode, variant_commented _ _ (by decide), signature_commented]
      exact (Nat.zero_add _).symm
  | object properties exact inexact =>
      rw [encodedCount, encode, variant_commented _ _ (by decide), object_commented _ rfl]
      simp [properties_commented, FlowType.comments, parts]

theorem encoded_count_placeholders (t : FlowType)
    (settled : ∀ u : FlowType, u.Occurs t → u.Settled) : t.encodedCount = t.placeholders := by
  induction t using by_parts with
  | step t ih =>
      have own : (if t.comments.isEmpty then 0 else 1) = t.ownPlaceholders := by
        have here := settled t .here
        cases t with
        | reference name arguments comments =>
            rcases here with rfl | ⟨rfl, -, -⟩
            · simp [FlowType.comments, ownPlaceholders, isPlaceholder]
            · cases comments <;> simp [FlowType.comments, ownPlaceholders, isPlaceholder]
        | _ => rfl
      have parts : t.parts.map encodedCount = t.parts.map placeholders :=
        List.map_congr_left fun p member =>
          ih p member fun u occurs => settled u (.inside p t member occurs)
      rw [encoded_count_eq, placeholders_eq, own, parts]

end FlowType

theorem variables_commented (names : List (Variable FlowType)) :
    (Json.array (names.map Variable.encode)).commented =
      ((names.flatMap fun v => v.type.toList).map FlowType.encodedCount).sum := by
  rw [Json.commented_array Variable.encode
    (fun v => (v.type.toList.map FlowType.encodedCount).sum) names fun v _ => by
      rw [Variable.encode, object_commented _ rfl]
      simp [FlowType.option_commented]]
  induction names with
  | nil => rfl
  | cons v names ih => simp [ih]

theorem declaration_commented (d : Declaration FlowType) :
    d.encode.commented = (d.types.map FlowType.encodedCount).sum := by
  cases d with
  | vars names =>
      rw [Declaration.encode, variant_commented _ _ (by decide), object_commented _ rfl]
      simp [variables_commented, Declaration.types]
  | typeAlias id typeParams right =>
      rw [Declaration.encode, variant_commented _ _ (by decide), object_commented _ rfl]
      simp [FlowType.type_params_commented, Declaration.types, FlowType.encodedCount]
  | function id signature =>
      rw [Declaration.encode, variant_commented _ _ (by decide), object_commented _ rfl]
      simp [FlowType.signature_commented, Declaration.types]

theorem import_kind_commented (kind : ImportKind) : kind.encode.commented = 0 := by
  cases kind <;> rfl

theorem specifier_commented (s : ImportSpecifier) : s.encode.commented = 0 := by
  cases s with
  | default localName =>
      rw [ImportSpecifier.encode, variant_commented _ _ (by decide), object_commented _ rfl]
      rfl
  | wholeModule localName =>
      rw [ImportSpecifier.encode, variant_commented _ _ (by decide), object_commented _ rfl]
      rfl
  | named imported localName kind =>
      have kinds := Json.commented_option ImportKind.encode kind fun k _ => import_kind_commented k
      rw [ImportSpecifier.encode, variant_commented _ _ (by decide), object_commented _ rfl]
      simp [kinds]

theorem import_commented (d : ImportDeclaration) : d.encode.commented = 0 := by
  have specifiers := Json.commented_none ImportSpecifier.encode d.specifiers fun s _ =>
    specifier_commented s
  rw [ImportDeclaration.encode, object_commented _ rfl]
  simp [specifiers, import_kind_commented]

theorem statement_commented (s : Statement) (settled : s.Settled) :
    s.encode.commented = s.placeholders := by
  have types (d : Declaration FlowType) (same : s.types = d.types) :
      d.encode.commented = (s.types.map FlowType.placeholders).sum := by
    rw [declaration_commented, ← same]
    congr 1
    apply List.map_congr_left
    intro t member
    exact t.encoded_count_placeholders fun u occurs => settled.contained u ⟨t, member, occurs⟩
  cases s with
  | empty comments =>
      have filled : comments ≠ [] := by
        rintro rfl
        cases settled.empty [] rfl
      have own : Json.fills "comments" [("comments", Comment.encodeAll comments)] = true := by
        cases comments with
        | nil => exact absurd rfl filled
        | cons => rfl
      rw [Statement.encode, variant_commented _ _ (by decide), Json.commented, own]
      simp [Json.commentedMembers, comments_commented, Statement.placeholders]
  | importing d =>
      rw [Statement.encode, variant_commented _ _ (by decide), import_commented]
      rfl
  | exportDefault target =>
      cases target with
      | identifier name =>
          rw [Statement.encode, variant_commented _ _ (by decide), DefaultExport.encode,
            variant_commented _ _ (by decide)]
          rfl
      | declaration d =>
          rw [Statement.encode, variant_commented _ _ (by decide), DefaultExport.encode,
            variant_commented _ _ (by decide), types d rfl, Statement.placeholders_eq _ rfl]
  | exportNamed d =>
      rw [Statement.encode, variant_commented _ _ (by decide), types d rfl,
        Statement.placeholders_eq _ rfl]
  | declaration d =>
      rw [Statement.encode, variant_commented _ _ (by decide), types d rfl,
        Statement.placeholders_eq _ rfl]

theorem diagnostic_commented (d : Diagnostic) : d.encode.commented = 0 := by
  have spans := Json.commented_option Span.encode d.span fun span _ => by
    rw [Span.encode, object_commented _ rfl]
    rfl
  rw [Diagnostic.encode, object_commented _ rfl]
  simp [spans]

theorem converted_commented (converted : ConvertedFile)
    (settled : ∀ s ∈ converted.file.body, s.Settled) :
    converted.encode.commented = converted.placeholders := by
  have diagnostics := Json.commented_none Diagnostic.encode converted.diagnostics fun d _ =>
    diagnostic_commented d
  have imports := Json.commented_none ImportDeclaration.encode converted.file.imports fun d _ =>
    import_commented d
  have header : (Json.strings converted.file.header).commented = 0 :=
    Json.commented_none Json.string converted.file.header fun _ _ => rfl
  have body := Json.commented_array Statement.encode Statement.placeholders converted.file.body
    fun s member => statement_commented s (settled s member)
  rw [ConvertedFile.encode, object_commented _ rfl, File.encode]
  simp only [List.map_cons, List.map_nil, List.sum_cons, List.sum_nil, diagnostics]
  rw [object_commented _ rfl]
  simp [imports, header, body, ConvertedFile.placeholders, placeholders_of_all_sum]

end FlowDefs
