import FlowDefs.Flow.Printer
import FlowDefs.Proofs.Declaration.Types
import FlowDefs.Proofs.Text.Listing
set_option autoImplicit false

namespace FlowDefs

namespace Text

def isWordChar (c : Char) : Bool := c.isAlphanum || c = '_' || c = '$' || 128 ≤ c.toNat

def isWord (w : String) : Bool :=
  match w.toList with
  | [] => false
  | c :: cs => !c.isDigit && (c :: cs).all isWordChar

-- Digits, with a minus sign or without.
def isNumeral (raw : String) : Bool :=
  let digits := match raw.toList with
    | '-' :: cs => cs
    | cs => cs
  !digits.isEmpty && digits.all Char.isDigit

-- Quotes around a text that does not hold that quote.
def isQuoted (raw : String) : Bool :=
  match raw.toList with
  | [] => false
  | q :: cs => (q = '"' || q = '\'') && cs.getLast? = some q && !cs.dropLast.contains q

end Text

open Text

def Literal.WellSpelled : Literal → Prop
  | .null => True
  | .boolean value raw => raw = if value then "true" else "false"
  | .number _ raw => isNumeral raw = true
  | .string _ raw => isQuoted raw = true

def PropertyKey.WellSpelled : PropertyKey → Prop
  | .identifier name => isWord name = true
  | .string _ raw => isQuoted raw = true

-- A parameter without a name has no place for the mark of an optional one.
def Param.WellSpelled {τ : Type} (p : Param τ) : Prop :=
  match p.name with
  | some name => isWord name = true
  | none => p.optional = false

def reservedNames : List String := [
  "Array", "any", "mixed", "empty", "void", "null", "boolean", "number", "string", "true", "false"]

namespace FlowType

-- What a type has to satisfy by itself, whatever its parts are.
def WellSpelled : FlowType → Prop
  | .literal value => value.WellSpelled
  | .reference name _ comments =>
    comments = [] ∧ name.segments ≠ [] ∧ (∀ s ∈ name.segments, isWord s = true) ∧
      ∀ w ∈ reservedNames, name ≠ .bare w
  | .union members => 2 ≤ members.length ∧ ∀ inner : List FlowType, .union inner ∉ members
  | .function signature =>
    (∀ p ∈ signature.typeParams.getD [], isWord p.name = true) ∧
      ∀ p ∈ signature.params ++ signature.rest.toList, p.WellSpelled
  | .object properties _ _ => ∀ p ∈ properties, p.key.WellSpelled
  | _ => True

inductive Printable : FlowType → Prop where
  | intro (t : FlowType) (own : t.WellSpelled) (parts : ∀ p ∈ t.parts, Printable p) : Printable t

end FlowType

def Literal.undecoded : Literal → Literal
  | .null => .null
  | .boolean value raw => .boolean value raw
  | .number _ raw => .number .zero raw
  | .string _ raw => .string "" raw

def PropertyKey.undecoded : PropertyKey → PropertyKey
  | .identifier name => .identifier name
  | .string _ raw => .string "" raw

namespace FlowType

-- The type with the values of its literals forgotten, as far as their spelling does not show them.
mutual
def undecoded : FlowType → FlowType
  | .primitive word => .primitive word
  | .literal value => .literal value.undecoded
  | .reference name arguments comments =>
    .reference name (undecodedArguments arguments) comments
  | .union members => .union (undecodedAll members)
  | .array element => .array (undecoded element)
  | .tuple elements => .tuple (undecodedAll elements)
  | .function signature => .function (undecodedSignature signature)
  | .object properties exact inexact => .object (undecodedProperties properties) exact inexact
def undecodedArguments : Option (List FlowType) → Option (List FlowType)
  | none => none
  | some types => some (undecodedAll types)
def undecodedAll : List FlowType → List FlowType
  | [] => []
  | t :: ts => undecoded t :: undecodedAll ts
def undecodedOption : Option FlowType → Option FlowType
  | none => none
  | some t => some (undecoded t)
def undecodedSignature : Signature FlowType → Signature FlowType
  | ⟨typeParams, params, rest, result⟩ =>
    ⟨undecodedTypeParams typeParams, undecodedParams params, undecodedRest rest, undecoded result⟩
def undecodedTypeParams : Option (List (TypeParam FlowType)) → Option (List (TypeParam FlowType))
  | none => none
  | some params => some (undecodedTypeParamList params)
def undecodedTypeParamList : List (TypeParam FlowType) → List (TypeParam FlowType)
  | [] => []
  | ⟨name, bound, default⟩ :: params =>
    ⟨name, undecodedOption bound, undecodedOption default⟩ :: undecodedTypeParamList params
def undecodedParams : List (Param FlowType) → List (Param FlowType)
  | [] => []
  | ⟨name, type, optional⟩ :: params => ⟨name, undecoded type, optional⟩ :: undecodedParams params
def undecodedRest : Option (Param FlowType) → Option (Param FlowType)
  | none => none
  | some ⟨name, type, optional⟩ => some ⟨name, undecoded type, optional⟩
def undecodedProperties : List (Property FlowType) → List (Property FlowType)
  | [] => []
  | ⟨key, value, optional⟩ :: properties =>
    ⟨key.undecoded, undecoded value, optional⟩ :: undecodedProperties properties
end

def undecodedTypeParam (p : TypeParam FlowType) : TypeParam FlowType :=
  ⟨p.name, p.bound.map undecoded, p.default.map undecoded⟩

def undecodedParam (p : Param FlowType) : Param FlowType := ⟨p.name, p.type.undecoded, p.optional⟩

def undecodedProperty (p : Property FlowType) : Property FlowType :=
  ⟨p.key.undecoded, p.value.undecoded, p.optional⟩

theorem undecoded_all_eq (ts : List FlowType) : undecodedAll ts = ts.map undecoded := by
  induction ts with
  | nil => rfl
  | cons t ts ih => rw [undecodedAll, ih, List.map_cons]

theorem undecoded_arguments_eq (arguments : Option (List FlowType)) :
    undecodedArguments arguments = arguments.map (List.map undecoded) := by
  cases arguments with
  | none => rfl
  | some ts => rw [undecodedArguments, undecoded_all_eq, Option.map_some]

theorem undecoded_option_eq (t : Option FlowType) : undecodedOption t = t.map undecoded := by
  cases t <;> rfl

theorem undecoded_type_params_eq (params : Option (List (TypeParam FlowType))) :
    undecodedTypeParams params = params.map (List.map undecodedTypeParam) := by
  cases params with
  | none => rfl
  | some params =>
      rw [undecodedTypeParams, Option.map_some]
      congr 1
      induction params with
      | nil => rfl
      | cons p params ih =>
          rw [undecodedTypeParamList, ih, undecoded_option_eq, undecoded_option_eq]
          rfl

theorem undecoded_params_eq (params : List (Param FlowType)) :
    undecodedParams params = params.map undecodedParam := by
  induction params with
  | nil => rfl
  | cons p params ih =>
      rw [undecodedParams, ih]
      rfl

theorem undecoded_rest_eq (rest : Option (Param FlowType)) :
    undecodedRest rest = rest.map undecodedParam := by
  cases rest <;> rfl

theorem undecoded_properties_eq (properties : List (Property FlowType)) :
    undecodedProperties properties = properties.map undecodedProperty := by
  induction properties with
  | nil => rfl
  | cons p properties ih =>
      rw [undecodedProperties, ih]
      rfl

end FlowType

end FlowDefs
