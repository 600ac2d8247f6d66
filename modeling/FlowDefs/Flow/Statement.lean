import FlowDefs.Flow.Type
import FlowDefs.Library.Rule
import FlowDefs.Syntax.Construct
set_option autoImplicit false

namespace FlowDefs

inductive DefaultExport where
  | identifier (name : String)
  | declaration (declaration : Declaration FlowType)

inductive Statement where
  | empty (comments : List Comment)
  | importing (declaration : ImportDeclaration)
  | exportDefault (target : DefaultExport)
  | exportNamed (declaration : Declaration FlowType)
  | declaration (declaration : Declaration FlowType)

structure File where
  name : String
  header : List String
  -- The imports that substituted types need.
  imports : List ImportDeclaration
  body : List Statement

structure Diagnostic where
  message : String
  span : Option Span
deriving DecidableEq, Repr

structure ConvertedFile where
  file : File
  diagnostics : List Diagnostic

def placeholdersOfVariables : List (Variable FlowType) → Nat
  | [] => 0
  | v :: vars => FlowType.placeholdersOfOption v.type + placeholdersOfVariables vars

def Declaration.placeholders : Declaration FlowType → Nat
  | .vars names => placeholdersOfVariables names
  | .typeAlias _ typeParams right =>
    FlowType.placeholdersOfTypeParams typeParams + right.placeholders
  | .function _ signature => FlowType.placeholdersOfSignature signature

namespace Statement

def isDeclaration : Statement → Bool
  | .declaration _ => true
  | _ => false

def isPlaceholder : Statement → Bool
  | .empty _ => true
  | _ => false

def comments : Statement → List Comment
  | .empty comments => comments
  | _ => []

def placeholders : Statement → Nat
  | .empty _ => 1
  | .importing _ => 0
  | .exportDefault (.identifier _) => 0
  | .exportDefault (.declaration d) => d.placeholders
  | .exportNamed d => d.placeholders
  | .declaration d => d.placeholders

def placeholdersOfAll : List Statement → Nat
  | [] => 0
  | s :: statements => s.placeholders + placeholdersOfAll statements

end Statement

def ConvertedFile.placeholders (converted : ConvertedFile) : Nat :=
  Statement.placeholdersOfAll converted.file.body

def Substitution.declaration (s : Substitution) : ImportDeclaration :=
  ⟨.type, [.named s.importName s.localName none], s.module⟩

def unsupportedTag (construct : Construct) : String := "tsflow-unimplemented: " ++ construct.name

def errorTag (description : String) : String := "tsflow-error: " ++ description

def FlowType.placeholder (source : Quote) (tag : String) : FlowType :=
  .reference fixme none [⟨source.text, .trailing⟩, ⟨tag, .trailing⟩]

def Statement.placeholder (source : Quote) (tag : String) : Statement :=
  .empty [⟨tag, .leading⟩, ⟨source.text, .trailing⟩]

end FlowDefs
