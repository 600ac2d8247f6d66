import FlowDefs.Library.Catalog
import FlowDefs.TypeScript.Type
set_option autoImplicit false

namespace FlowDefs

inductive ExportModifier where
  | named
  | default
deriving DecidableEq, Repr

structure SourceStatement where
  node : Node
  body : Node
  exported : Option ExportModifier

namespace Node

def exportedPart? (n : Node) : Option Node :=
  if n.kind = "export_statement" then n.field? "declaration" else none

-- The declaration that `declare` introduces; a global block and a module's export keep it.
def ambientBody (n : Node) : Node :=
  if n.kind = "ambient_declaration" then
    match n.firstPart? with
    | some inner =>
      if inner.kind = "statement_block" ∨ inner.kind = "property_identifier" then n else inner
    | none => n
  else n

def statement (n : Node) : SourceStatement :=
  match n.exportedPart? with
  | some inner =>
    ⟨n, inner.ambientBody, some (if n.hasToken "default" then .default else .named)⟩
  | none => ⟨n, n.ambientBody, none⟩

def statements (root : Node) : List SourceStatement := root.parts.map statement

end Node

inductive Content where
  | importing (declaration : ImportDeclaration)
  | exportName (name : String)
  | declaration (declaration : Declaration TypeExpr)
  | unsupported (construct : Construct)
  | rejected (fault : Fault)
  -- A fault in the middle: the names bound and the variables read before it.
  | abandoned (fault : Fault) (bound : List (String × Binding)) (read : List (Variable TypeExpr))

def unsupportedStatements : List Construct := [
  .block, .emptyStatement, .expressionStatement, .ifStatement, .doStatement, .whileStatement,
  .forStatement, .forInStatement, .continueStatement, .breakStatement, .returnStatement,
  .withStatement, .switchStatement, .labeledStatement, .throwStatement, .tryStatement,
  .debuggerStatement, .classDeclaration, .interfaceDeclaration, .enumDeclaration,
  .moduleDeclaration, .importEqualsDeclaration, .exportDeclaration,
  .namespaceExportDeclaration]

namespace Content

def fail (fault : Fault) : Content := .abandoned fault [] []

def namedSpecifier (n : Node) : Except Fault ImportSpecifier :=
  match n.field? "name" with
  | none => .error .namelessImport
  | some name =>
    let localName := ((n.field? "alias").map Node.text).getD name.text
    .ok (.named name.text localName (if n.hasToken "type" then some .type else none))

def specifiers (part : Node) : List (Except Fault ImportSpecifier) :=
  match part.kind with
  | "identifier" => [.ok (.default part.text)]
  | "namespace_import" =>
    match part.firstPart? with
    | some name => [.ok (.wholeModule name.text)]
    | none => [.error .namelessModuleImport]
  | "named_imports" => part.parts.map namedSpecifier
  | kind => [.error (.unexpectedImportPart kind)]

def ofClause (kind : ImportKind) (source : String) (clause : Node) : Content :=
  match untilFault (clause.parts.flatMap specifiers) with
  | (read, none) => .importing ⟨kind, read, source⟩
  | (read, some fault) => .abandoned fault (read.map fun s => s.binding source) []

def ofImport (body : Node) : Content :=
  match body.childOfKind? "import_clause" with
  | none => fail .noImportClause
  | some clause =>
    match body.field? "source" with
    | none => fail .importWithoutModule
    | some module =>
      match Text.decodeString module.text with
      | none => fail .malformedModule
      | some source => ofClause (if body.hasToken "type" then .type else .value) source clause

def declared (declarator : Node) : Except Fault (Variable TypeExpr) :=
  match declarator.field? "name" with
  | none => .error .namelessVariable
  | some name =>
    if name.construct = .identifier then
      .ok ⟨name.text, TypeExpr.annotated declarator "type"⟩
    else .error (.unsupportedPattern name.kind)

def ofVariables (body : Node) : Content :=
  let declarators := body.parts.filter fun c => c.kind = "variable_declarator"
  match untilFault (declarators.map declared) with
  | (read, none) => .declaration (.vars read)
  | (read, some fault) => .abandoned fault [] read

def ofTypeAlias (body : Node) : Content :=
  match body.field? "name" with
  | none => fail .namelessAlias
  | some name =>
    match body.field? "value" with
    | none => fail .aliasWithoutType
    | some value =>
      .declaration (.typeAlias name.text (TypeExpr.typeParams body) (TypeExpr.ofNode value))

def ofFunction (body : Node) : Content :=
  match body.field? "name" with
  | none => fail .namelessFunction
  | some name => .declaration (.function name.text (TypeExpr.signature body))

def ofExportAssignment (body : Node) : Content :=
  if body.hasToken "=" then .rejected .exportAssignment
  else
    match body.field? "value" with
    | some value =>
      if value.construct = .identifier then .exportName value.text
      else .rejected .exportedExpression
    | none => .rejected .exportedExpression

def ofBody (body : Node) : Content :=
  match body.construct with
  | .importDeclaration => ofImport body
  | .exportAssignment => ofExportAssignment body
  | .variableStatement => ofVariables body
  | .typeAliasDeclaration => ofTypeAlias body
  | .functionDeclaration => ofFunction body
  | construct =>
    if unsupportedStatements.contains construct then .unsupported construct
    else .rejected (.unexpectedStatement body.describe)

-- The names that the statement binds, also those before a fault.
def bindings : Content → List (String × Binding)
  | .importing d => d.specifiers.map fun s => s.binding d.source
  | .abandoned _ bound _ => bound
  | _ => []

end Content

def SourceStatement.content (s : SourceStatement) : Content := Content.ofBody s.body

end FlowDefs
