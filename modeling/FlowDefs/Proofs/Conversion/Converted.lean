import FlowDefs.Conversion.File
set_option autoImplicit false

namespace FlowDefs

-- A result by itself: the value, the imports that it needs and its warnings.
structure Converted (α : Type) where
  value : α
  imports : List Substitution
  diagnostics : List Diagnostic

namespace Converted

variable {α β : Type}

instance : Monad Converted where
  pure x := ⟨x, [], []⟩
  bind x f := ⟨(f x.value).value, x.imports ++ (f x.value).imports,
    x.diagnostics ++ (f x.value).diagnostics⟩

def require (s : Substitution) : Converted Unit := ⟨(), [s], []⟩

def warn (message : String) (span : Span) : Converted Unit := ⟨(), [], [⟨message, some span⟩]⟩

end Converted

abbrev Resolver := QualifiedName → Option Rule

def Expansion.toFlow (name : QualifiedName) (arguments : List (Converted FlowType)) :
    Expansion → Converted (Except Fault FlowType)
  | component =>
    if 2 < arguments.length then pure (.error (.componentArguments arguments.length))
    else do
      let arguments ← inOrder arguments
      pure (.ok (.component name arguments))
  | reactElement =>
    match arguments with
    | [] => pure (.ok (.element (.bare "React$ElementType")))
    | [properties] => do
      let properties ← properties
      pure (.ok (.element (.named (.bare "React$ComponentType") [properties])))
    | [_, type] => do
      let type ← type
      pure (.ok (.element type))
    | arguments => pure (.error (.elementArguments arguments.length))

namespace TypeExpr

mutual
def toFlow (resolve : Resolver) : TypeExpr → Converted FlowType
  | .keyword word => pure (.primitive word.toFlow)
  | .literal value => pure (.literal value)
  | .reference source name arguments =>
    match resolve name with
    | none => do
      let arguments ← inOrder (toFlowEach resolve arguments)
      pure (.named name arguments)
    | some (.substitute s) => do
      Converted.require s
      let arguments ← inOrder (toFlowEach resolve arguments)
      pure (.named (.bare s.localName) arguments)
    | some (.expand expansion) => do
      let result ← expansion.toFlow name (toFlowEach resolve arguments)
      pure (.orInvalid source result)
  | .union members => do
    let members ← inOrder (toFlowEach resolve members)
    pure (.union members)
  | .array element => do
    let element ← toFlow resolve element
    pure (.array element)
  | .tuple elements => do
    let elements ← inOrder (toFlowEach resolve elements)
    pure (.tuple elements)
  | .function signature => do
    let signature ← toFlowSignature resolve signature
    pure (.function signature)
  -- The properties before a fault are converted, and what they add stays.
  | .object source properties fault => do
    let properties ← toFlowProperties resolve properties
    match fault with
    | none => pure (.object properties true false)
    | some fault =>
      Converted.warn ("type literal: " ++ fault.message) source.span
      pure (.invalid source fault)
  | .unsupported source construct => pure (.unsupported source construct)
  | .invalid source fault => pure (.invalid source fault)
def toFlowEach (resolve : Resolver) : List TypeExpr → List (Converted FlowType)
  | [] => []
  | t :: ts => toFlow resolve t :: toFlowEach resolve ts
def toFlowOption (resolve : Resolver) : Option TypeExpr → Converted (Option FlowType)
  | none => pure none
  | some t => do
    let type ← toFlow resolve t
    pure (some type)
def toFlowSignature (resolve : Resolver) : Signature TypeExpr → Converted (Signature FlowType)
  | ⟨typeParams, params, rest, result⟩ => do
    let typeParams ← toFlowTypeParams resolve typeParams
    let params ← toFlowParams resolve params
    let rest ← toFlowRest resolve rest
    let result ← toFlow resolve result
    pure ⟨typeParams, params, rest, result⟩
def toFlowTypeParams (resolve : Resolver) :
    Option (List (TypeParam TypeExpr)) → Converted (Option (List (TypeParam FlowType)))
  | none => pure none
  | some params => do
    let params ← toFlowTypeParamList resolve params
    pure (some params)
def toFlowTypeParamList (resolve : Resolver) :
    List (TypeParam TypeExpr) → Converted (List (TypeParam FlowType))
  | [] => pure []
  | ⟨name, bound, default⟩ :: params => do
    let bound ← toFlowOption resolve bound
    let default ← toFlowOption resolve default
    let params ← toFlowTypeParamList resolve params
    pure (⟨name, bound, default⟩ :: params)
def toFlowParam (resolve : Resolver) : Param TypeExpr → Converted (Param FlowType)
  | ⟨name, type, optional⟩ => do
    let type ← toFlow resolve type
    pure ⟨name, type, optional⟩
def toFlowParams (resolve : Resolver) :
    List (Param TypeExpr) → Converted (List (Param FlowType))
  | [] => pure []
  | p :: params => do
    let param ← toFlowParam resolve p
    let params ← toFlowParams resolve params
    pure (param :: params)
def toFlowRest (resolve : Resolver) :
    Option (Param TypeExpr) → Converted (Option (Param FlowType))
  | none => pure none
  | some p => do
    let param ← toFlowParam resolve p
    pure (some param)
def toFlowProperties (resolve : Resolver) :
    List (Property TypeExpr) → Converted (List (Property FlowType))
  | [] => pure []
  | ⟨key, value, optional⟩ :: properties => do
    let value ← toFlow resolve value
    let properties ← toFlowProperties resolve properties
    pure (⟨key, value, optional⟩ :: properties)
end

end TypeExpr

def convertVariables (resolve : Resolver) :
    List (Variable TypeExpr) → Converted (List (Variable FlowType))
  | [] => pure []
  | v :: vars => do
    let type ← TypeExpr.toFlowOption resolve v.type
    let vars ← convertVariables resolve vars
    pure (⟨v.name, type⟩ :: vars)

def Declaration.toFlow (resolve : Resolver) :
    Declaration TypeExpr → Converted (Declaration FlowType)
  | .vars names => do
    let names ← convertVariables resolve names
    pure (.vars names)
  | .typeAlias id typeParams right => do
    let typeParams ← TypeExpr.toFlowTypeParams resolve typeParams
    let right ← right.toFlow resolve
    pure (.typeAlias id typeParams right)
  | .function id signature => do
    let signature ← TypeExpr.toFlowSignature resolve signature
    pure (.function id signature)

def Content.toFlow (resolve : Resolver) (source : Quote) : Content → Converted Statement
  | .importing d => pure (.importing d)
  | .exportName name => pure (.exportDefault (.identifier name))
  | .declaration d => do
    let d ← d.toFlow resolve
    pure (.declaration d)
  | .unsupported construct => pure (.unsupported source construct)
  | .rejected fault => pure (.invalid source fault.message)
  -- What the variables before the fault add stays.
  | .abandoned fault _ read => do
    let _ ← convertVariables resolve read
    let description := "internal error: " ++ fault.message
    Converted.warn description source.span
    pure (.invalid source description)

-- Puts the export around a declaration. A placeholder has said what went wrong already.
def exportStatement (modifier : ExportModifier) (source : Quote) :
    Statement → Converted Statement
  | .declaration d =>
    match modifier with
    | .named => pure (.exportNamed d)
    | .default => pure (.exportDefault (.declaration d))
  | .empty comments => pure (.empty comments)
  | other => do
    Converted.warn "statement has \"export\", but conversion not a declaration" source.span
    pure other

def SourceStatement.toFlow (resolve : Resolver) (s : SourceStatement) : Converted Statement := do
  let inner ← s.content.toFlow resolve s.node.quote
  match s.exported with
  | some modifier => exportStatement modifier s.node.quote inner
  | none => pure inner

end FlowDefs
