import FlowDefs.Conversion.Translation
import FlowDefs.TypeScript.Type
set_option autoImplicit false

namespace FlowDefs

def Keyword.toFlow : Keyword → Primitive
  | .any => .any
  | .unknown => .mixed
  | .never => .empty
  | .undefined => .void
  | .void => .void
  | .boolean => .boolean
  | .number => .number
  | .string => .string

namespace FlowType

def unsupported (source : Quote) (construct : Construct) : FlowType :=
  .placeholder source (unsupportedTag construct)

def invalid (source : Quote) (fault : Fault) : FlowType :=
  .placeholder source (errorTag fault.message)

-- A fault becomes a placeholder where the type would stand.
def orInvalid (source : Quote) : Except Fault FlowType → FlowType
  | .ok type => type
  | .error fault => .invalid source fault

end FlowType

namespace TypeExpr

mutual
-- Every type has a result: what has no counterpart becomes a placeholder where it stands.
def convert (catalog : Catalog) : TypeExpr → Conversion FlowType
  | .keyword word => pure (.primitive word.toFlow)
  | .literal value => pure (.literal value)
  | .reference source name arguments => do
    match ← Conversion.rule? catalog name with
    | none =>
      let arguments ← inOrder (convertEach catalog arguments)
      pure (.named name arguments)
    | some (.substitute s) =>
      Conversion.require s
      let arguments ← inOrder (convertEach catalog arguments)
      pure (.named (.bare s.localName) arguments)
    | some (.expand expansion) =>
      let result ← expansion.run name (convertEach catalog arguments)
      pure (.orInvalid source result)
  | .union members => do
    let members ← inOrder (convertEach catalog members)
    pure (.union members)
  | .array element => do
    let element ← convert catalog element
    pure (.array element)
  | .tuple elements => do
    let elements ← inOrder (convertEach catalog elements)
    pure (.tuple elements)
  | .function signature => do
    let signature ← convertSignature catalog signature
    pure (.function signature)
  -- The properties before a fault are converted, and what they add stays.
  | .object source properties fault => do
    let properties ← convertProperties catalog properties
    match fault with
    | none => pure (.object properties true false)
    | some fault =>
      Conversion.warn ("type literal: " ++ fault.message) source.span
      pure (.invalid source fault)
  | .unsupported source construct => pure (.unsupported source construct)
  | .invalid source fault => pure (.invalid source fault)
def convertEach (catalog : Catalog) : List TypeExpr → List (Conversion FlowType)
  | [] => []
  | t :: ts => convert catalog t :: convertEach catalog ts
def convertOption (catalog : Catalog) : Option TypeExpr → Conversion (Option FlowType)
  | none => pure none
  | some t => do
    let type ← convert catalog t
    pure (some type)
def convertSignature (catalog : Catalog) :
    Signature TypeExpr → Conversion (Signature FlowType)
  | ⟨typeParams, params, rest, result⟩ => do
    let typeParams ← convertTypeParams catalog typeParams
    let params ← convertParams catalog params
    let rest ← convertRest catalog rest
    let result ← convert catalog result
    pure ⟨typeParams, params, rest, result⟩
def convertTypeParams (catalog : Catalog) :
    Option (List (TypeParam TypeExpr)) → Conversion (Option (List (TypeParam FlowType)))
  | none => pure none
  | some params => do
    let params ← convertTypeParamList catalog params
    pure (some params)
def convertTypeParamList (catalog : Catalog) :
    List (TypeParam TypeExpr) → Conversion (List (TypeParam FlowType))
  | [] => pure []
  | ⟨name, bound, default⟩ :: params => do
    let bound ← convertOption catalog bound
    let default ← convertOption catalog default
    let params ← convertTypeParamList catalog params
    pure (⟨name, bound, default⟩ :: params)
def convertParam (catalog : Catalog) : Param TypeExpr → Conversion (Param FlowType)
  | ⟨name, type, optional⟩ => do
    let type ← convert catalog type
    pure ⟨name, type, optional⟩
def convertParams (catalog : Catalog) :
    List (Param TypeExpr) → Conversion (List (Param FlowType))
  | [] => pure []
  | p :: params => do
    let param ← convertParam catalog p
    let params ← convertParams catalog params
    pure (param :: params)
def convertRest (catalog : Catalog) :
    Option (Param TypeExpr) → Conversion (Option (Param FlowType))
  | none => pure none
  | some p => do
    let param ← convertParam catalog p
    pure (some param)
def convertProperties (catalog : Catalog) :
    List (Property TypeExpr) → Conversion (List (Property FlowType))
  | [] => pure []
  | ⟨key, value, optional⟩ :: properties => do
    let value ← convert catalog value
    let properties ← convertProperties catalog properties
    pure (⟨key, value, optional⟩ :: properties)
end

end TypeExpr

end FlowDefs
