import FlowDefs.Syntax.Node
set_option autoImplicit false

namespace FlowDefs

inductive Construct where
  -- Statements
  | importDeclaration
  | importEqualsDeclaration
  | exportAssignment
  | exportDeclaration
  | namespaceExportDeclaration
  | variableStatement
  | typeAliasDeclaration
  | functionDeclaration
  | classDeclaration
  | interfaceDeclaration
  | enumDeclaration
  | moduleDeclaration
  | block
  | emptyStatement
  | expressionStatement
  | ifStatement
  | doStatement
  | whileStatement
  | forStatement
  | forInStatement
  | continueStatement
  | breakStatement
  | returnStatement
  | withStatement
  | switchStatement
  | labeledStatement
  | throwStatement
  | tryStatement
  | debuggerStatement
  -- Types written as one word
  | anyKeyword
  | unknownKeyword
  | neverKeyword
  | undefinedKeyword
  | voidKeyword
  | booleanKeyword
  | numberKeyword
  | stringKeyword
  | symbolKeyword
  | objectKeyword
  -- Other types
  | literalType
  | typeReference
  | unionType
  | intersectionType
  | arrayType
  | tupleType
  | functionType
  | constructorType
  | typeLiteral
  | mappedType
  | typePredicate
  | typeQuery
  | typeOperator
  | indexedAccessType
  | conditionalType
  | inferType
  | parenthesizedType
  | thisType
  | optionalType
  | restType
  | namedTupleMember
  | templateLiteralType
  | importType
  -- Literals
  | nullKeyword
  | trueKeyword
  | falseKeyword
  | numericLiteral
  | bigIntLiteral
  | stringLiteral
  | prefixUnaryExpression
  -- Members of object types
  | propertySignature
  | callSignature
  | constructSignature
  | methodSignature
  | getAccessor
  | setAccessor
  | indexSignature
  -- Names
  | identifier
  | qualifiedName
  -- Where the grammar gave up, and what is none of these
  | error
  | unknown
deriving DecidableEq, Repr

namespace Construct

def name : Construct → String
  | .importDeclaration => "ImportDeclaration"
  | .importEqualsDeclaration => "ImportEqualsDeclaration"
  | .exportAssignment => "ExportAssignment"
  | .exportDeclaration => "ExportDeclaration"
  | .namespaceExportDeclaration => "NamespaceExportDeclaration"
  | .variableStatement => "VariableStatement"
  | .typeAliasDeclaration => "TypeAliasDeclaration"
  | .functionDeclaration => "FunctionDeclaration"
  | .classDeclaration => "ClassDeclaration"
  | .interfaceDeclaration => "InterfaceDeclaration"
  | .enumDeclaration => "EnumDeclaration"
  | .moduleDeclaration => "ModuleDeclaration"
  | .block => "Block"
  | .emptyStatement => "EmptyStatement"
  | .expressionStatement => "ExpressionStatement"
  | .ifStatement => "IfStatement"
  | .doStatement => "DoStatement"
  | .whileStatement => "WhileStatement"
  | .forStatement => "ForStatement"
  | .forInStatement => "ForInStatement"
  | .continueStatement => "ContinueStatement"
  | .breakStatement => "BreakStatement"
  | .returnStatement => "ReturnStatement"
  | .withStatement => "WithStatement"
  | .switchStatement => "SwitchStatement"
  | .labeledStatement => "LabeledStatement"
  | .throwStatement => "ThrowStatement"
  | .tryStatement => "TryStatement"
  | .debuggerStatement => "DebuggerStatement"
  | .anyKeyword => "AnyKeyword"
  | .unknownKeyword => "UnknownKeyword"
  | .neverKeyword => "NeverKeyword"
  | .undefinedKeyword => "UndefinedKeyword"
  | .voidKeyword => "VoidKeyword"
  | .booleanKeyword => "BooleanKeyword"
  | .numberKeyword => "NumberKeyword"
  | .stringKeyword => "StringKeyword"
  | .symbolKeyword => "SymbolKeyword"
  | .objectKeyword => "ObjectKeyword"
  | .literalType => "LiteralType"
  | .typeReference => "TypeReference"
  | .unionType => "UnionType"
  | .intersectionType => "IntersectionType"
  | .arrayType => "ArrayType"
  | .tupleType => "TupleType"
  | .functionType => "FunctionType"
  | .constructorType => "ConstructorType"
  | .typeLiteral => "TypeLiteral"
  | .mappedType => "MappedType"
  | .typePredicate => "TypePredicate"
  | .typeQuery => "TypeQuery"
  | .typeOperator => "TypeOperator"
  | .indexedAccessType => "IndexedAccessType"
  | .conditionalType => "ConditionalType"
  | .inferType => "InferType"
  | .parenthesizedType => "ParenthesizedType"
  | .thisType => "ThisType"
  | .optionalType => "OptionalType"
  | .restType => "RestType"
  | .namedTupleMember => "NamedTupleMember"
  | .templateLiteralType => "TemplateLiteralType"
  | .importType => "ImportType"
  | .nullKeyword => "NullKeyword"
  | .trueKeyword => "TrueKeyword"
  | .falseKeyword => "FalseKeyword"
  | .numericLiteral => "NumericLiteral"
  | .bigIntLiteral => "BigIntLiteral"
  | .stringLiteral => "StringLiteral"
  | .prefixUnaryExpression => "PrefixUnaryExpression"
  | .propertySignature => "PropertySignature"
  | .callSignature => "CallSignature"
  | .constructSignature => "ConstructSignature"
  | .methodSignature => "MethodSignature"
  | .getAccessor => "GetAccessor"
  | .setAccessor => "SetAccessor"
  | .indexSignature => "IndexSignature"
  | .identifier => "Identifier"
  | .qualifiedName => "QualifiedName"
  | .error => "Error"
  | .unknown => "Unknown"

def ofKind : List (String × Construct) := [
  ("import_alias", .importEqualsDeclaration),
  ("lexical_declaration", .variableStatement),
  ("variable_declaration", .variableStatement),
  ("type_alias_declaration", .typeAliasDeclaration),
  ("function_declaration", .functionDeclaration),
  ("function_signature", .functionDeclaration),
  ("generator_function_declaration", .functionDeclaration),
  ("class_declaration", .classDeclaration),
  ("abstract_class_declaration", .classDeclaration),
  ("interface_declaration", .interfaceDeclaration),
  ("enum_declaration", .enumDeclaration),
  ("module", .moduleDeclaration),
  ("internal_module", .moduleDeclaration),
  ("ambient_declaration", .moduleDeclaration),
  ("statement_block", .block),
  ("empty_statement", .emptyStatement),
  ("expression_statement", .expressionStatement),
  ("if_statement", .ifStatement),
  ("do_statement", .doStatement),
  ("while_statement", .whileStatement),
  ("for_statement", .forStatement),
  ("for_in_statement", .forInStatement),
  ("continue_statement", .continueStatement),
  ("break_statement", .breakStatement),
  ("return_statement", .returnStatement),
  ("with_statement", .withStatement),
  ("switch_statement", .switchStatement),
  ("labeled_statement", .labeledStatement),
  ("throw_statement", .throwStatement),
  ("try_statement", .tryStatement),
  ("debugger_statement", .debuggerStatement),
  ("nested_type_identifier", .typeReference),
  ("generic_type", .typeReference),
  ("union_type", .unionType),
  ("intersection_type", .intersectionType),
  ("array_type", .arrayType),
  ("tuple_type", .tupleType),
  ("function_type", .functionType),
  ("constructor_type", .constructorType),
  ("type_predicate", .typePredicate),
  ("asserts", .typePredicate),
  ("type_query", .typeQuery),
  ("index_type_query", .typeOperator),
  ("readonly_type", .typeOperator),
  ("lookup_type", .indexedAccessType),
  ("conditional_type", .conditionalType),
  ("infer_type", .inferType),
  ("parenthesized_type", .parenthesizedType),
  ("this_type", .thisType),
  ("this", .thisType),
  ("optional_type", .optionalType),
  ("rest_type", .restType),
  ("tuple_parameter", .namedTupleMember),
  ("optional_tuple_parameter", .namedTupleMember),
  ("template_literal_type", .templateLiteralType),
  ("import_type", .importType),
  ("null", .nullKeyword),
  ("true", .trueKeyword),
  ("false", .falseKeyword),
  ("string", .stringLiteral),
  ("unary_expression", .prefixUnaryExpression),
  ("property_signature", .propertySignature),
  ("call_signature", .callSignature),
  ("construct_signature", .constructSignature),
  ("index_signature", .indexSignature),
  ("identifier", .identifier),
  ("property_identifier", .identifier),
  ("nested_identifier", .qualifiedName),
  ("ERROR", .error)]

def ofExport (n : Node) : Construct :=
  if n.hasToken "import" then .importEqualsDeclaration
  else if (n.field? "value").isSome || n.hasToken "=" then .exportAssignment
  else if n.hasToken "namespace" then .namespaceExportDeclaration
  else .exportDeclaration

def keywords : List (String × Construct) := [
  ("any", .anyKeyword),
  ("unknown", .unknownKeyword),
  ("never", .neverKeyword),
  ("void", .voidKeyword),
  ("undefined", .undefinedKeyword),
  ("boolean", .booleanKeyword),
  ("number", .numberKeyword),
  ("string", .stringKeyword),
  ("object", .objectKeyword),
  ("symbol", .symbolKeyword),
  ("unique symbol", .symbolKeyword)]

-- A mapped type is an object type whose only member is an index signature over a clause.
def isMapped (n : Node) : Bool :=
  match n.parts with
  | [only] => only.kind = "index_signature" && (only.childOfKind? "mapped_type_clause").isSome
  | _ => false

def ofNode (n : Node) : Construct :=
  match n.kind with
  | "import_statement" =>
    if (n.childOfKind? "import_require_clause").isSome then .importEqualsDeclaration
    else .importDeclaration
  | "export_statement" => ofExport n
  | "predefined_type" => (keywords.lookup n.text).getD .unknown
  | "literal_type" =>
    if (n.childOfKind? "undefined").isSome then .undefinedKeyword else .literalType
  | "type_identifier" => if n.text = "undefined" then .undefinedKeyword else .typeReference
  | "object_type" => if isMapped n then .mappedType else .typeLiteral
  -- Labelled tuple elements are written with the parameter nodes.
  | "required_parameter" => if n.parent = "tuple_type" then .namedTupleMember else .unknown
  | "optional_parameter" => if n.parent = "tuple_type" then .namedTupleMember else .unknown
  | "number" =>
    if n.text.toList.getLast? = some 'n' then .bigIntLiteral else .numericLiteral
  | "method_signature" =>
    if n.hasToken "get" then .getAccessor
    else if n.hasToken "set" then .setAccessor
    else .methodSignature
  | kind => (ofKind.lookup kind).getD .unknown

end Construct

namespace Node

def construct (n : Node) : Construct := Construct.ofNode n

def describe (n : Node) : String :=
  match n.construct with
  | .unknown => n.kind
  | .error => n.kind
  | c => c.name

end Node

end FlowDefs
