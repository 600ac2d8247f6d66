import FlowDefs.Conversion.Type
import FlowDefs.TypeScript.Statement
set_option autoImplicit false

namespace FlowDefs

def Variable.convertAll (catalog : Catalog) :
    List (Variable TypeExpr) → Conversion (List (Variable FlowType))
  | [] => pure []
  | v :: vars => do
    let type ← TypeExpr.convertOption catalog v.type
    let vars ← convertAll catalog vars
    pure (⟨v.name, type⟩ :: vars)

def Declaration.convert (catalog : Catalog) :
    Declaration TypeExpr → Conversion (Declaration FlowType)
  | .vars names => do
    let names ← Variable.convertAll catalog names
    pure (.vars names)
  | .typeAlias id typeParams right => do
    let typeParams ← TypeExpr.convertTypeParams catalog typeParams
    let right ← right.convert catalog
    pure (.typeAlias id typeParams right)
  | .function id signature => do
    let signature ← TypeExpr.convertSignature catalog signature
    pure (.function id signature)

namespace Statement

def unsupported (source : Quote) (construct : Construct) : Statement :=
  .placeholder source (unsupportedTag construct)

def invalid (source : Quote) (description : String) : Statement :=
  .placeholder source (errorTag description)

-- Puts the export around a declaration. A placeholder has said what went wrong already.
def withExport (modifier : ExportModifier) (source : Quote) : Statement → Conversion Statement
  | .declaration d =>
    match modifier with
    | .named => pure (.exportNamed d)
    | .default => pure (.exportDefault (.declaration d))
  | .empty comments => pure (.empty comments)
  | other => do
    Conversion.warn "statement has \"export\", but conversion not a declaration" source.span
    pure other

end Statement

def Content.convert (catalog : Catalog) (source : Quote) : Content → Conversion Statement
  | .importing d => do
    Conversion.bindAll (d.specifiers.map fun s => s.binding d.source)
    pure (.importing d)
  | .exportName name => pure (.exportDefault (.identifier name))
  | .declaration d => do
    let d ← d.convert catalog
    pure (.declaration d)
  | .unsupported construct => pure (.unsupported source construct)
  | .rejected fault => pure (.invalid source fault.message)
  -- What the variables before the fault add stays, and the names before it stay bound.
  | .abandoned fault bound read => do
    let _ ← Variable.convertAll catalog read
    Conversion.bindAll bound
    let description := "internal error: " ++ fault.message
    Conversion.warn description source.span
    pure (.invalid source description)

def SourceStatement.convert (catalog : Catalog) (s : SourceStatement) : Conversion Statement := do
  let inner ← s.content.convert catalog s.node.quote
  match s.exported with
  | some modifier => inner.withExport modifier s.node.quote
  | none => pure inner

namespace Session

def convertType (catalog : Catalog) (session : Session) (type : TypeExpr) : FlowType × Session :=
  (type.convert catalog).run session

def convert (catalog : Catalog) (session : Session) (s : SourceStatement) :
    Statement × Session :=
  (s.convert catalog).run session

def convertAll (catalog : Catalog) (session : Session) :
    List SourceStatement → List Statement × Session
  | [] => ([], session)
  | s :: statements =>
    let first := session.convert catalog s
    let rest := first.2.convertAll catalog statements
    (first.1 :: rest.1, rest.2)

end Session

def header : List String := ["@flow", "@generated by TsFlow"]

def convertFile (catalog : Catalog) (name : String) (root : Node) : ConvertedFile :=
  let result := Session.start.convertAll catalog root.statements
  { file := {
      name := name
      header := header
      imports := result.2.imports.map Substitution.declaration
      body := result.1 }
    diagnostics := result.2.diagnostics }

end FlowDefs
