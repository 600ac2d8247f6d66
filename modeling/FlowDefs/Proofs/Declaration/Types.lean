import FlowDefs.Flow.Statement
import FlowDefs.TypeScript.Type
set_option autoImplicit false

namespace FlowDefs

variable {τ : Type}

def TypeParam.types (p : TypeParam τ) : List τ := p.bound.toList ++ p.default.toList

def typesOfParams (params : Option (List (TypeParam τ))) : List τ :=
  (params.getD []).flatMap TypeParam.types

def Signature.types (s : Signature τ) : List τ :=
  typesOfParams s.typeParams ++ s.params.map Param.type ++ s.rest.toList.map Param.type ++
    [s.result]

def Declaration.types : Declaration τ → List τ
  | .vars names => names.flatMap fun v => v.type.toList
  | .typeAlias _ typeParams right => typesOfParams typeParams ++ [right]
  | .function _ signature => signature.types

def TypeExpr.parts : TypeExpr → List TypeExpr
  | .keyword _ => []
  | .literal _ => []
  | .reference _ _ arguments => arguments
  | .union members => members
  | .array element => [element]
  | .tuple elements => elements
  | .function signature => signature.types
  | .object _ properties _ => properties.map Property.value
  | .unsupported _ _ => []
  | .invalid _ _ => []

def FlowType.parts : FlowType → List FlowType
  | .primitive _ => []
  | .literal _ => []
  | .reference _ arguments _ => arguments.getD []
  | .union members => members
  | .array element => [element]
  | .tuple elements => elements
  | .function signature => signature.types
  | .object properties _ _ => properties.map Property.value

def Statement.types : Statement → List FlowType
  | .empty _ => []
  | .importing _ => []
  | .exportDefault (.identifier _) => []
  | .exportDefault (.declaration d) => d.types
  | .exportNamed d => d.types
  | .declaration d => d.types

inductive FlowType.Occurs (u : FlowType) : FlowType → Prop where
  | here : Occurs u u
  | inside (part whole : FlowType) (member : part ∈ whole.parts) (inner : Occurs u part) :
      Occurs u whole

def Statement.Contains (s : Statement) (u : FlowType) : Prop := ∃ t ∈ s.types, u.Occurs t

theorem size_of_type_param [SizeOf τ] (params : Option (List (TypeParam τ))) (t : τ)
    (member : t ∈ typesOfParams params) : sizeOf t < sizeOf params := by
  cases params with
  | none => simp [typesOfParams] at member
  | some params =>
      simp only [typesOfParams, Option.getD_some, List.mem_flatMap] at member
      obtain ⟨⟨name, bound, default⟩, listed, inside⟩ := member
      have smaller := List.sizeOf_lt_of_mem listed
      simp only [TypeParam.types, List.mem_append, Option.mem_toList] at inside
      rcases inside with rfl | rfl
      · simp only [Option.some.sizeOf_spec, TypeParam.mk.sizeOf_spec] at *
        omega
      · simp only [Option.some.sizeOf_spec, TypeParam.mk.sizeOf_spec] at *
        omega

theorem size_of_signature_type [SizeOf τ] (s : Signature τ) (t : τ) (member : t ∈ s.types) :
    sizeOf t < sizeOf s := by
  obtain ⟨typeParams, params, rest, result⟩ := s
  simp only [Signature.types, List.mem_append, List.mem_map, List.mem_singleton,
    Option.mem_toList] at member
  rw [Signature.mk.sizeOf_spec]
  rcases member with ((inside | ⟨p, listed, rfl⟩) | ⟨p, listed, rfl⟩) | rfl
  · have smaller := size_of_type_param typeParams t inside
    omega
  · have smaller := List.sizeOf_lt_of_mem listed
    obtain ⟨name, type, optional⟩ := p
    simp only [Param.mk.sizeOf_spec] at *
    omega
  · subst listed
    obtain ⟨name, type, optional⟩ := p
    simp only [Option.some.sizeOf_spec, Param.mk.sizeOf_spec]
    omega
  · omega

namespace TypeExpr

theorem size_of_part (t p : TypeExpr) (member : p ∈ t.parts) : sizeOf p < sizeOf t := by
  cases t with
  | reference source name arguments =>
      have smaller : sizeOf p < sizeOf arguments := List.sizeOf_lt_of_mem member
      rw [reference.sizeOf_spec]
      omega
  | union members =>
      have smaller : sizeOf p < sizeOf members := List.sizeOf_lt_of_mem member
      rw [union.sizeOf_spec]
      omega
  | array element =>
      rw [List.mem_singleton.mp member, array.sizeOf_spec]
      omega
  | tuple elements =>
      have smaller : sizeOf p < sizeOf elements := List.sizeOf_lt_of_mem member
      rw [tuple.sizeOf_spec]
      omega
  | function signature =>
      have smaller := size_of_signature_type signature p member
      rw [function.sizeOf_spec]
      omega
  | object source properties fault =>
      obtain ⟨⟨key, value, optional⟩, listed, rfl⟩ := List.mem_map.mp member
      have smaller := List.sizeOf_lt_of_mem listed
      rw [Property.mk.sizeOf_spec] at smaller
      rw [object.sizeOf_spec]
      dsimp only
      omega
  | keyword => cases member
  | literal => cases member
  | unsupported => cases member
  | invalid => cases member

-- Types nest through lists, options and records; this is the one induction over all of them.
theorem by_parts {P : TypeExpr → Prop} (step : ∀ t : TypeExpr, (∀ p ∈ t.parts, P p) → P t)
    (t : TypeExpr) : P t :=
  step t fun p member =>
    have := size_of_part t p member
    by_parts step p
termination_by sizeOf t

end TypeExpr

namespace FlowType

theorem size_of_part (t p : FlowType) (member : p ∈ t.parts) : sizeOf p < sizeOf t := by
  cases t with
  | reference name arguments comments =>
      cases arguments with
      | none => cases member
      | some types =>
          have smaller : sizeOf p < sizeOf types := List.sizeOf_lt_of_mem member
          rw [reference.sizeOf_spec, Option.some.sizeOf_spec]
          omega
  | union members =>
      have smaller : sizeOf p < sizeOf members := List.sizeOf_lt_of_mem member
      rw [union.sizeOf_spec]
      omega
  | array element =>
      rw [List.mem_singleton.mp member, array.sizeOf_spec]
      omega
  | tuple elements =>
      have smaller : sizeOf p < sizeOf elements := List.sizeOf_lt_of_mem member
      rw [tuple.sizeOf_spec]
      omega
  | function signature =>
      have smaller := size_of_signature_type signature p member
      rw [function.sizeOf_spec]
      omega
  | object properties exact inexact =>
      obtain ⟨⟨key, value, optional⟩, listed, rfl⟩ := List.mem_map.mp member
      have smaller := List.sizeOf_lt_of_mem listed
      rw [Property.mk.sizeOf_spec] at smaller
      rw [object.sizeOf_spec]
      dsimp only
      omega
  | primitive => cases member
  | literal => cases member

theorem by_parts {P : FlowType → Prop} (step : ∀ t : FlowType, (∀ p ∈ t.parts, P p) → P t)
    (t : FlowType) : P t :=
  step t fun p member =>
    have := size_of_part t p member
    by_parts step p
termination_by sizeOf t

end FlowType

end FlowDefs
