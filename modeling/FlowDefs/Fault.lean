import FlowDefs.Syntax.Construct
set_option autoImplicit false

namespace FlowDefs

inductive Fault where
  -- Types
  | arrayWithoutElement
  | annotationWithoutType
  | emptyLiteralType
  | malformedNumber
  | malformedString
  | unexpectedSigned (text : String)
  | unexpectedLiteral (kind : String)
  | namelessReference
  | unexpectedType (kind : String)
  -- Members of object types
  | unsupportedMember (construct : Construct)
  | unexpectedMember (kind : String)
  | namelessProperty
  | malformedPropertyName
  | unsupportedPropertyName (kind : String)
  -- Arguments of references with a rule of their own
  | componentArguments (count : Nat)
  | elementArguments (count : Nat)
  -- Imports
  | noImportClause
  | importWithoutModule
  | malformedModule
  | namelessModuleImport
  | namelessImport
  | unexpectedImportPart (kind : String)
  -- Other statements
  | namelessVariable
  | unsupportedPattern (kind : String)
  | namelessAlias
  | aliasWithoutType
  | namelessFunction
  | exportAssignment
  | exportedExpression
  | unexpectedStatement (kind : String)
deriving DecidableEq, Repr

namespace Fault

def message : Fault → String
  | arrayWithoutElement => "array type without element type"
  | annotationWithoutType => "empty type annotation"
  | emptyLiteralType => "literal type without literal"
  | malformedNumber => "malformed numeric literal"
  | malformedString => "malformed string literal"
  | unexpectedSigned text => "unexpected prefix-unary literal type: " ++ text
  | unexpectedLiteral kind => "unexpected literal-type kind: " ++ kind
  | namelessReference => "type reference without name"
  | unexpectedType kind => "unexpected type kind: " ++ kind
  | unsupportedMember construct => "unimplemented TypeElement kind: " ++ construct.name
  | unexpectedMember kind => "unexpected TypeElement kind: " ++ kind
  | namelessProperty => "property signature without name"
  | malformedPropertyName => "malformed property name"
  | unsupportedPropertyName kind => "unimplemented: property name kind: " ++ kind
  | componentArguments count =>
    "bad React.Component: " ++ Nat.repr count ++ " arguments (expected 0-2)"
  | elementArguments count =>
    "bad React.Element: " ++ Nat.repr count ++ " arguments (expected 0-2)"
  | noImportClause => "unimplemented: no import clause"
  | importWithoutModule => "import without module specifier"
  | malformedModule => "malformed module specifier"
  | namelessModuleImport => "namespace import without name"
  | namelessImport => "import specifier without name"
  | unexpectedImportPart kind => "unexpected import clause part: " ++ kind
  | namelessVariable => "variable declarator without name"
  | unsupportedPattern kind => "unimplemented: variable binding pattern: " ++ kind
  | namelessAlias => "type alias without name"
  | aliasWithoutType => "type alias without type"
  | namelessFunction => "function declaration without name"
  | exportAssignment => "unimplemented: \"export =\""
  | exportedExpression => "\"export default\" with non-identifier"
  | unexpectedStatement kind => "unexpected statement kind: " ++ kind

end Fault

def untilFault {ε α : Type} : List (Except ε α) → List α × Option ε
  | [] => ([], none)
  | .error fault :: _ => ([], some fault)
  | .ok x :: rest => (x :: (untilFault rest).1, (untilFault rest).2)

end FlowDefs
