import FlowDefs.Proofs.Conversion.Converted
import FlowDefs.Proofs.Declaration.Types
set_option autoImplicit false

namespace FlowDefs

attribute [ext] Converted

namespace Converted

variable {α β γ : Type}

@[simp] theorem value_pure (x : α) : (pure x : Converted α).value = x := rfl

@[simp] theorem imports_pure (x : α) : (pure x : Converted α).imports = [] := rfl

@[simp] theorem diagnostics_pure (x : α) : (pure x : Converted α).diagnostics = [] := rfl

@[simp] theorem value_bind (c : Converted α) (f : α → Converted β) :
    (c >>= f).value = (f c.value).value := rfl

@[simp] theorem imports_bind (c : Converted α) (f : α → Converted β) :
    (c >>= f).imports = c.imports ++ (f c.value).imports := rfl

@[simp] theorem diagnostics_bind (c : Converted α) (f : α → Converted β) :
    (c >>= f).diagnostics = c.diagnostics ++ (f c.value).diagnostics := rfl

def each (f : α → Converted β) (xs : List α) : Converted (List β) where
  value := xs.map fun x => (f x).value
  imports := xs.flatMap fun x => (f x).imports
  diagnostics := xs.flatMap fun x => (f x).diagnostics

-- A result seen through a projection, with all that it adds.
def view (g : α → β) (c : Converted α) : Converted β := ⟨g c.value, c.imports, c.diagnostics⟩

theorem each_cons (f : α → Converted β) (x : α) (xs : List α) :
    each f (x :: xs) = (do let y ← f x; let ys ← each f xs; pure (y :: ys)) := by
  ext1 <;> simp [each]

theorem view_eq_each (g : α → List β) (f : γ → Converted β) (c : Converted α) (xs : List γ) :
    c.view g = each f xs ↔ g c.value = xs.map (fun x => (f x).value) ∧
      c.imports = xs.flatMap (fun x => (f x).imports) ∧
      c.diagnostics = xs.flatMap (fun x => (f x).diagnostics) := by
  simp [view, each, Converted.ext_iff]

end Converted

namespace TypeExpr

open Converted

variable (resolve : Resolver)

theorem to_flow_each_eq (ts : List TypeExpr) : toFlowEach resolve ts = ts.map (toFlow resolve) := by
  induction ts with
  | nil => rfl
  | cons t ts ih => rw [toFlowEach, ih, List.map_cons]

theorem to_flow_all_eq (ts : List TypeExpr) :
    inOrder (toFlowEach resolve ts) = each (toFlow resolve) ts := by
  rw [to_flow_each_eq]
  induction ts with
  | nil => rfl
  | cons t ts ih => rw [List.map_cons, inOrder, ih, each_cons]

theorem to_flow_option_types (t : Option TypeExpr) :
    (toFlowOption resolve t).view Option.toList = each (toFlow resolve) t.toList := by
  cases t with
  | none => rfl
  | some t => simp [toFlowOption, view_eq_each]

theorem to_flow_type_params_types (params : Option (List (TypeParam TypeExpr))) :
    (toFlowTypeParams resolve params).view typesOfParams =
      each (toFlow resolve) (typesOfParams params) := by
  cases params with
  | none => rfl
  | some params =>
      rw [view_eq_each]
      simp only [toFlowTypeParams, typesOfParams, value_bind, value_pure, imports_bind,
        imports_pure, diagnostics_bind, diagnostics_pure, List.append_nil, Option.getD_some]
      induction params with
      | nil => simp [toFlowTypeParamList]
      | cons p params ih =>
          obtain ⟨values, imports, diagnostics⟩ := ih
          obtain ⟨name, bound, default⟩ := p
          obtain ⟨boundValue, boundImports, boundDiagnostics⟩ :=
            (view_eq_each _ _ _ _).mp (to_flow_option_types resolve bound)
          obtain ⟨defaultValue, defaultImports, defaultDiagnostics⟩ :=
            (view_eq_each _ _ _ _).mp (to_flow_option_types resolve default)
          simp [toFlowTypeParamList, TypeParam.types, *]

theorem to_flow_params_types (params : List (Param TypeExpr)) :
    (toFlowParams resolve params).view (List.map Param.type) =
      each (toFlow resolve) (params.map Param.type) := by
  rw [view_eq_each]
  induction params with
  | nil => simp [toFlowParams]
  | cons p params ih =>
      obtain ⟨name, type, optional⟩ := p
      simp [toFlowParams, toFlowParam, ih]

theorem to_flow_rest_types (rest : Option (Param TypeExpr)) :
    (toFlowRest resolve rest).view (fun rest => rest.toList.map Param.type) =
      each (toFlow resolve) (rest.toList.map Param.type) := by
  rw [view_eq_each]
  cases rest with
  | none => simp [toFlowRest]
  | some p =>
      obtain ⟨name, type, optional⟩ := p
      simp [toFlowRest, toFlowParam]

theorem to_flow_signature_types (s : Signature TypeExpr) :
    (toFlowSignature resolve s).view Signature.types = each (toFlow resolve) s.types := by
  obtain ⟨typeParams, params, rest, result⟩ := s
  obtain ⟨v1, i1, d1⟩ := (view_eq_each _ _ _ _).mp (to_flow_type_params_types resolve typeParams)
  obtain ⟨v2, i2, d2⟩ := (view_eq_each _ _ _ _).mp (to_flow_params_types resolve params)
  obtain ⟨v3, i3, d3⟩ := (view_eq_each _ _ _ _).mp (to_flow_rest_types resolve rest)
  simp [view_eq_each, toFlowSignature, Signature.types, *]

theorem to_flow_properties_types (properties : List (Property TypeExpr)) :
    (toFlowProperties resolve properties).view (List.map Property.value) =
      each (toFlow resolve) (properties.map Property.value) := by
  rw [view_eq_each]
  induction properties with
  | nil => simp [toFlowProperties]
  | cons p properties ih =>
      obtain ⟨key, value, optional⟩ := p
      simp [toFlowProperties, ih]

end TypeExpr

theorem convert_variables_types (resolve : Resolver) (names : List (Variable TypeExpr)) :
    (convertVariables resolve names).view (List.flatMap fun v => v.type.toList) =
      Converted.each (TypeExpr.toFlow resolve) (names.flatMap fun v => v.type.toList) := by
  rw [Converted.view_eq_each]
  induction names with
  | nil => simp [convertVariables]
  | cons v names ih =>
      obtain ⟨values, imports, diagnostics⟩ := ih
      obtain ⟨value, required, warned⟩ :=
        (Converted.view_eq_each _ _ _ _).mp (TypeExpr.to_flow_option_types resolve v.type)
      simp [convertVariables, *]

theorem declaration_to_flow_types (resolve : Resolver) (d : Declaration TypeExpr) :
    (d.toFlow resolve).view Declaration.types =
      Converted.each (TypeExpr.toFlow resolve) d.types := by
  rw [Converted.view_eq_each]
  cases d with
  | vars names =>
      obtain ⟨values, imports, diagnostics⟩ :=
        (Converted.view_eq_each _ _ _ _).mp (convert_variables_types resolve names)
      simp [Declaration.toFlow, Declaration.types, *]
  | typeAlias id typeParams right =>
      obtain ⟨values, imports, diagnostics⟩ :=
        (Converted.view_eq_each _ _ _ _).mp
          (TypeExpr.to_flow_type_params_types resolve typeParams)
      simp [Declaration.toFlow, Declaration.types, *]
  | function id signature =>
      obtain ⟨values, imports, diagnostics⟩ :=
        (Converted.view_eq_each _ _ _ _).mp (TypeExpr.to_flow_signature_types resolve signature)
      simp [Declaration.toFlow, Declaration.types, *]

end FlowDefs
