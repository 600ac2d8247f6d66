import FlowDefs.Proofs.Declaration.Types
import Mathlib.Algebra.GroupWithZero.Nat
set_option autoImplicit false

namespace FlowDefs

namespace FlowType

def ownPlaceholders (t : FlowType) : Nat := if t.isPlaceholder then 1 else 0

theorem placeholders_of_all_eq (ts : List FlowType) :
    placeholdersOfAll ts = (ts.map placeholders).sum := by
  induction ts with
  | nil => rfl
  | cons t ts ih => rw [placeholdersOfAll, ih, List.map_cons, List.sum_cons]

theorem placeholders_of_option_eq (t : Option FlowType) :
    placeholdersOfOption t = (t.toList.map placeholders).sum := by
  cases t <;> simp [placeholdersOfOption]

theorem placeholders_of_type_params_eq (params : Option (List (TypeParam FlowType))) :
    placeholdersOfTypeParams params = ((typesOfParams params).map placeholders).sum := by
  cases params with
  | none => rfl
  | some params =>
      rw [placeholdersOfTypeParams, typesOfParams, Option.getD_some]
      induction params with
      | nil => rfl
      | cons p params ih =>
          obtain ⟨name, bound, default⟩ := p
          rw [placeholdersOfTypeParamList, ih]
          simp [TypeParam.types, placeholders_of_option_eq, Nat.add_assoc]

theorem placeholders_of_signature_eq (s : Signature FlowType) :
    placeholdersOfSignature s = (s.types.map placeholders).sum := by
  obtain ⟨typeParams, params, rest, result⟩ := s
  have listed (ps : List (Param FlowType)) :
      placeholdersOfParams ps = ((ps.map Param.type).map placeholders).sum := by
    induction ps with
    | nil => rfl
    | cons p ps ih =>
        obtain ⟨name, type, optional⟩ := p
        rw [placeholdersOfParams, ih, List.map_cons, List.map_cons, List.sum_cons]
  have last : placeholdersOfRest rest = ((rest.toList.map Param.type).map placeholders).sum := by
    cases rest with
    | none => rfl
    | some p =>
        obtain ⟨name, type, optional⟩ := p
        simp [placeholdersOfRest]
  rw [placeholdersOfSignature, placeholders_of_type_params_eq, listed, last]
  simp [Signature.types, Nat.add_assoc]

theorem placeholders_eq (t : FlowType) :
    t.placeholders = t.ownPlaceholders + (t.parts.map placeholders).sum := by
  cases t with
  | reference name arguments comments =>
      rw [placeholders]
      congr 1
      cases arguments with
      | none => rfl
      | some types => rw [placeholdersOfArguments, placeholders_of_all_eq]; rfl
  | union members =>
      simp [placeholders, placeholders_of_all_eq, ownPlaceholders, isPlaceholder, parts]
  | array element => simp [placeholders, ownPlaceholders, isPlaceholder, parts]
  | tuple elements =>
      simp [placeholders, placeholders_of_all_eq, ownPlaceholders, isPlaceholder, parts]
  | function s =>
      simp [placeholders, placeholders_of_signature_eq, ownPlaceholders, isPlaceholder, parts]
  | object properties exact inexact =>
      have listed (ps : List (Property FlowType)) :
          placeholdersOfProperties ps = ((ps.map Property.value).map placeholders).sum := by
        induction ps with
        | nil => rfl
        | cons p ps ih =>
            obtain ⟨key, value, optional⟩ := p
            rw [placeholdersOfProperties, ih, List.map_cons, List.map_cons, List.sum_cons]
      simp only [placeholders, listed, ownPlaceholders, isPlaceholder, parts]
      simp
  | primitive => rfl
  | literal => rfl

theorem sum_pos_iff (ts : List FlowType) :
    0 < (ts.map placeholders).sum ↔ ∃ t ∈ ts, 0 < t.placeholders := by
  rw [List.sum_pos_iff_exists_pos_nat]
  constructor
  · rintro ⟨count, listed, positive⟩
    obtain ⟨t, member, rfl⟩ := List.mem_map.mp listed
    exact ⟨t, member, positive⟩
  · rintro ⟨t, member, positive⟩
    exact ⟨t.placeholders, List.mem_map_of_mem member, positive⟩

theorem placeholders_pos_iff (t : FlowType) :
    0 < t.placeholders ↔ ∃ u : FlowType, u.Occurs t ∧ u.isPlaceholder = true := by
  induction t using by_parts with
  | step t ih =>
      rw [placeholders_eq, Nat.add_pos_iff_pos_or_pos, sum_pos_iff]
      constructor
      · rintro (own | ⟨p, member, below⟩)
        · by_cases placeholder : t.isPlaceholder = true
          · exact ⟨t, .here, placeholder⟩
          · rw [ownPlaceholders, if_neg placeholder] at own
            cases own
        · obtain ⟨u, occurs, placeholder⟩ := (ih p member).mp below
          exact ⟨u, .inside p t member occurs, placeholder⟩
      · rintro ⟨u, occurs, placeholder⟩
        cases occurs with
        | here => exact .inl (by rw [ownPlaceholders, if_pos placeholder]; exact Nat.one_pos)
        | inside p _ member inner =>
            exact .inr ⟨p, member, (ih p member).mpr ⟨u, inner, placeholder⟩⟩

-- The placeholders in a type, itself included, in order.
def placeholderTypes (t : FlowType) : List FlowType :=
  (if t.isPlaceholder then [t] else []) ++ t.parts.attach.flatMap fun ⟨p, h⟩ =>
    have := size_of_part t p h
    placeholderTypes p
termination_by sizeOf t

theorem placeholder_types_eq (t : FlowType) : t.placeholderTypes =
    (if t.isPlaceholder then [t] else []) ++ t.parts.flatMap placeholderTypes := by
  rw [placeholderTypes, List.flatMap_subtype (g := placeholderTypes) fun _ _ => rfl,
    List.unattach_attach]

theorem mem_placeholder_types (t u : FlowType) :
    u ∈ t.placeholderTypes ↔ u.Occurs t ∧ u.isPlaceholder = true := by
  induction t using by_parts with
  | step t ih =>
      rw [placeholder_types_eq, List.mem_append, List.mem_flatMap]
      constructor
      · rintro (own | ⟨p, member, below⟩)
        · by_cases placeholder : t.isPlaceholder = true
          · rw [if_pos placeholder, List.mem_singleton] at own
            exact ⟨own ▸ .here, own ▸ placeholder⟩
          · rw [if_neg placeholder] at own
            cases own
        · obtain ⟨occurs, placeholder⟩ := (ih p member).mp below
          exact ⟨.inside p t member occurs, placeholder⟩
      · rintro ⟨occurs, placeholder⟩
        cases occurs with
        | here => exact .inl (by rw [if_pos placeholder]; exact List.mem_singleton_self u)
        | inside p _ member inner => exact .inr ⟨p, member, (ih p member).mpr ⟨inner, placeholder⟩⟩

theorem placeholder_types_length (t : FlowType) : t.placeholderTypes.length = t.placeholders := by
  induction t using by_parts with
  | step t ih =>
      have own : (if t.isPlaceholder then [t] else []).length = t.ownPlaceholders := by
        rw [ownPlaceholders]
        split <;> rfl
      rw [placeholder_types_eq, placeholders_eq, List.length_append, List.length_flatMap, own,
        List.map_congr_left ih]

end FlowType

theorem placeholders_of_variables_eq (names : List (Variable FlowType)) :
    placeholdersOfVariables names =
      ((names.flatMap fun v => v.type.toList).map FlowType.placeholders).sum := by
  induction names with
  | nil => rfl
  | cons v names ih => simp [placeholdersOfVariables, ih, FlowType.placeholders_of_option_eq]

theorem Declaration.placeholders_eq (d : Declaration FlowType) :
    d.placeholders = (d.types.map FlowType.placeholders).sum := by
  cases d with
  | vars names => exact placeholders_of_variables_eq names
  | typeAlias id typeParams right =>
      simp [Declaration.placeholders, Declaration.types, FlowType.placeholders_of_type_params_eq]
  | function id signature => exact FlowType.placeholders_of_signature_eq signature

theorem Statement.placeholders_eq (s : Statement) (converted : s.isPlaceholder = false) :
    s.placeholders = (s.types.map FlowType.placeholders).sum := by
  cases s with
  | empty comments => cases converted
  | importing d => rfl
  | exportDefault target =>
      cases target with
      | identifier name => rfl
      | declaration d => exact d.placeholders_eq
  | exportNamed d => exact d.placeholders_eq
  | declaration d => exact d.placeholders_eq

theorem Statement.placeholders_pos_iff (s : Statement) : 0 < s.placeholders ↔
    s.isPlaceholder = true ∨ ∃ u, s.Contains u ∧ u.isPlaceholder = true := by
  cases whole : s.isPlaceholder with
  | true =>
      cases s with
      | empty comments => simp [Statement.placeholders]
      | _ => cases whole
  | false =>
      rw [s.placeholders_eq whole, FlowType.sum_pos_iff]
      constructor
      · rintro ⟨t, member, positive⟩
        obtain ⟨u, occurs, placeholder⟩ := t.placeholders_pos_iff.mp positive
        exact .inr ⟨u, ⟨t, member, occurs⟩, placeholder⟩
      · rintro (impossible | ⟨u, ⟨t, member, occurs⟩, placeholder⟩)
        · cases impossible
        · exact ⟨t, member, t.placeholders_pos_iff.mpr ⟨u, occurs, placeholder⟩⟩

-- The placeholders among the types in a statement, in order.
def Statement.placeholderTypes (s : Statement) : List FlowType :=
  s.types.flatMap FlowType.placeholderTypes

theorem Statement.placeholder_types_length (s : Statement) :
    s.placeholders = (if s.isPlaceholder then 1 else 0) + s.placeholderTypes.length := by
  cases whole : s.isPlaceholder with
  | true =>
      cases s with
      | empty comments => rfl
      | _ => cases whole
  | false =>
      have each := List.map_congr_left fun t (_ : t ∈ s.types) => t.placeholder_types_length
      rw [s.placeholders_eq whole, Statement.placeholderTypes, List.length_flatMap, each]
      simp

end FlowDefs
