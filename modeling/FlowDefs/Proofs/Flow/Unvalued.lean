import FlowDefs.Flow.Format
set_option autoImplicit false

namespace FlowDefs

def Literal.unvalued : Literal → Literal
  | .number _ raw => .number .zero raw
  | value => value

namespace FlowType

-- The type with the values of its number literals forgotten.
mutual
def unvalued : FlowType → FlowType
  | .primitive word => .primitive word
  | .literal value => .literal value.unvalued
  | .reference name arguments comments =>
    .reference name (unvaluedArguments arguments) comments
  | .union members => .union (unvaluedAll members)
  | .array element => .array (unvalued element)
  | .tuple elements => .tuple (unvaluedAll elements)
  | .function signature => .function (unvaluedSignature signature)
  | .object properties exact inexact => .object (unvaluedProperties properties) exact inexact
def unvaluedArguments : Option (List FlowType) → Option (List FlowType)
  | none => none
  | some types => some (unvaluedAll types)
def unvaluedAll : List FlowType → List FlowType
  | [] => []
  | t :: ts => unvalued t :: unvaluedAll ts
def unvaluedOption : Option FlowType → Option FlowType
  | none => none
  | some t => some (unvalued t)
def unvaluedSignature : Signature FlowType → Signature FlowType
  | ⟨typeParams, params, rest, result⟩ =>
    ⟨unvaluedTypeParams typeParams, unvaluedParams params, unvaluedRest rest, unvalued result⟩
def unvaluedTypeParams : Option (List (TypeParam FlowType)) → Option (List (TypeParam FlowType))
  | none => none
  | some params => some (unvaluedTypeParamList params)
def unvaluedTypeParamList : List (TypeParam FlowType) → List (TypeParam FlowType)
  | [] => []
  | ⟨name, bound, default⟩ :: params =>
    ⟨name, unvaluedOption bound, unvaluedOption default⟩ :: unvaluedTypeParamList params
def unvaluedParam : Param FlowType → Param FlowType
  | ⟨name, type, optional⟩ => ⟨name, unvalued type, optional⟩
def unvaluedParams : List (Param FlowType) → List (Param FlowType)
  | [] => []
  | p :: params => unvaluedParam p :: unvaluedParams params
def unvaluedRest : Option (Param FlowType) → Option (Param FlowType)
  | none => none
  | some p => some (unvaluedParam p)
def unvaluedProperties : List (Property FlowType) → List (Property FlowType)
  | [] => []
  | ⟨key, value, optional⟩ :: properties =>
    ⟨key, unvalued value, optional⟩ :: unvaluedProperties properties
end

end FlowType

section Objects

variable {name other a b c : String} {x y z x' y' z' : Json}

theorem variant_inj (same : variant name x = variant other x') : name = other ∧ x = x' := by
  simpa [variant] using same

theorem object_inj₁ (same : Json.object [(a, x)] = Json.object [(a, x')]) : x = x' := by
  simpa using same

theorem object_inj₂ (same : Json.object [(a, x), (b, y)] = Json.object [(a, x'), (b, y')]) :
    x = x' ∧ y = y' := by
  simpa using same

theorem object_inj₃ (same : Json.object [(a, x), (b, y), (c, z)] =
    Json.object [(a, x'), (b, y'), (c, z')]) : x = x' ∧ y = y' ∧ z = z' := by
  simpa using same

end Objects

theorem option_inj {α : Type} (encode : α → Json) (injective : ∀ x y, encode x = encode y → x = y)
    (some : ∀ x, encode x ≠ .null) (a b : Option α)
    (same : Json.ofOption encode a = Json.ofOption encode b) : a = b := by
  cases a with
  | none =>
      cases b with
      | none => rfl
      | some y => exact absurd same.symm (some y)
  | some x =>
      cases b with
      | none => exact absurd same (some x)
      | some y => rw [injective x y same]

theorem strings_inj (xs ys : List String) (same : Json.strings xs = Json.strings ys) : xs = ys := by
  simp only [Json.strings, Json.array.injEq] at same
  exact List.map_inj_right (fun _ _ => Json.string.inj) |>.mp same

-- The word that a value is or begins with, which names its variant.
def Json.tag : Json → String
  | .string word => word
  | .object ((name, _) :: _) => name
  | _ => ""

-- The variants of types in the order of their constructors.
def FlowType.tags : List (String × Nat) :=
  [("null", 1), ("boolean_literal", 1), ("number_literal", 1), ("string_literal", 1),
    ("generic", 2), ("union", 3), ("array", 4), ("tuple", 5), ("function", 6), ("object", 7)]

theorem tag_form (t : FlowType) : (FlowType.tags.lookup t.encode.tag).getD 0 = t.ctorIdx := by
  cases t with
  | primitive word => cases word <;> rfl
  | literal value => cases value <;> rfl
  | _ => rfl

theorem same_form (t u : FlowType) (same : t.encode = u.encode) : t.ctorIdx = u.ctorIdx := by
  rw [← tag_form, ← tag_form, same]

theorem primitive_encode_inj (a b : Primitive) (same : a.encode = b.encode) : a = b := by
  cases a <;> cases b <;> simp_all [Primitive.encode]

theorem literal_encode_unvalued (a b : Literal) (same : a.encode = b.encode) :
    a.unvalued = b.unvalued := by
  cases a <;> cases b <;> simp_all [Literal.encode, Literal.unvalued, variant, encodeLiteral]

theorem key_encode_inj (a b : PropertyKey) (same : a.encode = b.encode) : a = b := by
  cases a <;> cases b <;> simp_all [PropertyKey.encode, variant, encodeLiteral]

theorem comment_encode_inj (a b : Comment) (same : a.encode = b.encode) : a = b := by
  obtain ⟨text, placement⟩ := a
  obtain ⟨text', placement'⟩ := b
  cases placement <;> cases placement' <;> simp_all [Comment.encode]

theorem comments_encode_inj (as bs : List Comment)
    (same : Comment.encodeAll as = Comment.encodeAll bs) : as = bs := by
  simp only [Comment.encodeAll, Json.array.injEq] at same
  exact (List.map_inj_right comment_encode_inj).mp same

theorem qualified_encode_inj (a b : QualifiedName) (same : a.encode = b.encode) : a = b := by
  obtain ⟨segments⟩ := a
  obtain ⟨segments'⟩ := b
  rw [strings_inj segments segments' same]

namespace FlowType

theorem encode_not_null (t : FlowType) : t.encode ≠ .null := by
  cases t with
  | primitive word => cases word <;> exact nofun
  | literal value => cases value <;> exact nofun
  | _ => exact nofun

theorem encode_param_not_null (p : Param FlowType) : encodeParam p ≠ .null := by
  cases p
  exact nofun

mutual
theorem encode_unvalued (t u : FlowType) (same : t.encode = u.encode) :
    t.unvalued = u.unvalued := by
  have forms := same_form t u same
  cases t with
  | primitive word =>
      cases u with
      | primitive other => rw [primitive_encode_inj word other same]
      | _ => cases forms
  | literal value =>
      cases u with
      | literal other =>
          rw [unvalued, unvalued, literal_encode_unvalued value other same]
      | _ => cases forms
  | reference name arguments comments =>
      cases u with
      | reference name' arguments' comments' =>
          obtain ⟨names, types, notes⟩ := object_inj₃ (variant_inj same).2
          rw [unvalued, unvalued, qualified_encode_inj _ _ names,
            encode_arguments_unvalued arguments arguments' types, comments_encode_inj _ _ notes]
      | _ => cases forms
  | union members =>
      cases u with
      | union members' =>
          have types := Json.array.inj (variant_inj same).2
          rw [unvalued, unvalued, encode_all_unvalued members members' types]
      | _ => cases forms
  | array element =>
      cases u with
      | array element' =>
          rw [unvalued, unvalued, encode_unvalued element element' (variant_inj same).2]
      | _ => cases forms
  | tuple elements =>
      cases u with
      | tuple elements' =>
          have types := Json.array.inj (variant_inj same).2
          rw [unvalued, unvalued, encode_all_unvalued elements elements' types]
      | _ => cases forms
  | function signature =>
      cases u with
      | function signature' =>
          rw [unvalued, unvalued,
            encode_signature_unvalued signature signature' (variant_inj same).2]
      | _ => cases forms
  | object properties exact inexact =>
      cases u with
      | object properties' exact' inexact' =>
          obtain ⟨members, closed, loose⟩ := object_inj₃ (variant_inj same).2
          rw [unvalued, unvalued, Json.bool.inj closed, Json.bool.inj loose,
            encode_properties_unvalued properties properties' (Json.array.inj members)]
      | _ => cases forms
termination_by structural t
theorem encode_arguments_unvalued (ts us : Option (List FlowType))
    (same : encodeArguments ts = encodeArguments us) :
    unvaluedArguments ts = unvaluedArguments us := by
  cases ts with
  | none =>
      cases us with
      | none => rfl
      | some us => cases same
  | some ts =>
      cases us with
      | none => cases same
      | some us =>
          rw [unvaluedArguments, unvaluedArguments, encode_all_unvalued ts us (Json.array.inj same)]
termination_by structural ts
theorem encode_all_unvalued (ts us : List FlowType) (same : encodeAll ts = encodeAll us) :
    unvaluedAll ts = unvaluedAll us := by
  cases ts with
  | nil =>
      cases us with
      | nil => rfl
      | cons u us => cases same
  | cons t ts =>
      cases us with
      | nil => cases same
      | cons u us =>
          obtain ⟨first, later⟩ := List.cons_eq_cons.mp same
          rw [unvaluedAll, unvaluedAll, encode_unvalued t u first, encode_all_unvalued ts us later]
termination_by structural ts
theorem encode_option_unvalued (t u : Option FlowType) (same : encodeOption t = encodeOption u) :
    unvaluedOption t = unvaluedOption u := by
  cases t with
  | none =>
      cases u with
      | none => rfl
      | some u => exact absurd same.symm (encode_not_null u)
  | some t =>
      cases u with
      | none => exact absurd same (encode_not_null t)
      | some u => rw [unvaluedOption, unvaluedOption, encode_unvalued t u same]
termination_by structural t
theorem encode_signature_unvalued (s t : Signature FlowType)
    (same : encodeSignature s = encodeSignature t) :
    unvaluedSignature s = unvaluedSignature t := by
  obtain ⟨typeParams, params, rest, result⟩ := s
  obtain ⟨typeParams', params', rest', result'⟩ := t
  simp only [encodeSignature, Json.object.injEq, List.cons.injEq, Prod.mk.injEq, true_and,
    and_true] at same
  obtain ⟨generics, items, more, answer⟩ := same
  rw [unvaluedSignature, unvaluedSignature,
    encode_type_params_unvalued typeParams typeParams' generics,
    encode_params_unvalued params params' (Json.array.inj items),
    encode_rest_unvalued rest rest' more, encode_unvalued result result' answer]
termination_by structural s
theorem encode_type_params_unvalued (ps qs : Option (List (TypeParam FlowType)))
    (same : encodeTypeParams ps = encodeTypeParams qs) :
    unvaluedTypeParams ps = unvaluedTypeParams qs := by
  cases ps with
  | none =>
      cases qs with
      | none => rfl
      | some qs => cases same
  | some ps =>
      cases qs with
      | none => cases same
      | some qs =>
          rw [unvaluedTypeParams, unvaluedTypeParams,
            encode_type_param_list_unvalued ps qs (Json.array.inj same)]
termination_by structural ps
theorem encode_type_param_list_unvalued (ps qs : List (TypeParam FlowType))
    (same : encodeTypeParamList ps = encodeTypeParamList qs) :
    unvaluedTypeParamList ps = unvaluedTypeParamList qs := by
  cases ps with
  | nil =>
      cases qs with
      | nil => rfl
      | cons q qs => cases same
  | cons p ps =>
      cases qs with
      | nil => cases same
      | cons q qs =>
          obtain ⟨name, bound, default⟩ := p
          obtain ⟨name', bound', default'⟩ := q
          obtain ⟨first, later⟩ := List.cons_eq_cons.mp same
          obtain ⟨names, bounds, defaults⟩ := object_inj₃ first
          rw [unvaluedTypeParamList, unvaluedTypeParamList, Json.string.inj names,
            encode_option_unvalued bound bound' bounds,
            encode_option_unvalued default default' defaults,
            encode_type_param_list_unvalued ps qs later]
termination_by structural ps
theorem encode_param_unvalued (p q : Param FlowType) (same : encodeParam p = encodeParam q) :
    unvaluedParam p = unvaluedParam q := by
  obtain ⟨name, type, optional⟩ := p
  obtain ⟨name', type', optional'⟩ := q
  obtain ⟨names, types, marks⟩ := object_inj₃ same
  have labels := option_inj Json.string (fun _ _ => Json.string.inj) (fun _ => nofun) _ _ names
  rw [unvaluedParam, unvaluedParam, labels, encode_unvalued type type' types,
    Json.bool.inj marks]
termination_by structural p
theorem encode_params_unvalued (ps qs : List (Param FlowType))
    (same : encodeParams ps = encodeParams qs) : unvaluedParams ps = unvaluedParams qs := by
  cases ps with
  | nil =>
      cases qs with
      | nil => rfl
      | cons q qs => cases same
  | cons p ps =>
      cases qs with
      | nil => cases same
      | cons q qs =>
          obtain ⟨first, later⟩ := List.cons_eq_cons.mp same
          rw [unvaluedParams, unvaluedParams, encode_param_unvalued p q first,
            encode_params_unvalued ps qs later]
termination_by structural ps
theorem encode_rest_unvalued (p q : Option (Param FlowType)) (same : encodeRest p = encodeRest q) :
    unvaluedRest p = unvaluedRest q := by
  cases p with
  | none =>
      cases q with
      | none => rfl
      | some q => exact absurd same.symm (encode_param_not_null q)
  | some p =>
      cases q with
      | none => exact absurd same (encode_param_not_null p)
      | some q => rw [unvaluedRest, unvaluedRest, encode_param_unvalued p q same]
termination_by structural p
theorem encode_properties_unvalued (ps qs : List (Property FlowType))
    (same : encodeProperties ps = encodeProperties qs) :
    unvaluedProperties ps = unvaluedProperties qs := by
  cases ps with
  | nil =>
      cases qs with
      | nil => rfl
      | cons q qs => cases same
  | cons p ps =>
      cases qs with
      | nil => cases same
      | cons q qs =>
          obtain ⟨key, value, optional⟩ := p
          obtain ⟨key', value', optional'⟩ := q
          obtain ⟨first, later⟩ := List.cons_eq_cons.mp same
          obtain ⟨keys, values, marks⟩ := object_inj₃ first
          rw [unvaluedProperties, unvaluedProperties, key_encode_inj _ _ keys,
            encode_unvalued value value' values, Json.bool.inj marks,
            encode_properties_unvalued ps qs later]
termination_by structural ps
end

end FlowType

end FlowDefs
