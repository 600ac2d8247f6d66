import FlowDefs.Declaration
import FlowDefs.Fault
import FlowDefs.Number.Reading
import FlowDefs.Text.StringLiteral
set_option autoImplicit false

namespace FlowDefs

inductive Keyword where
  | any
  | unknown
  | never
  | undefined
  | void
  | boolean
  | number
  | string
deriving DecidableEq, Repr

inductive TypeExpr where
  | keyword (word : Keyword)
  | literal (value : Literal)
  -- A reference without type arguments has none written: the grammar knows no empty list.
  | reference (source : Quote) (name : QualifiedName) (arguments : List TypeExpr)
  | union (members : List TypeExpr)
  | array (element : TypeExpr)
  | tuple (elements : List TypeExpr)
  | function (signature : Signature TypeExpr)
  -- The properties before the first member that is none.
  | object (source : Quote) (properties : List (Property TypeExpr)) (fault : Option Fault)
  | unsupported (source : Quote) (construct : Construct)
  | invalid (source : Quote) (fault : Fault)

inductive TypeForm where
  | keyword (word : Keyword)
  | literal
  | reference
  | union
  | array
  | tuple
  | function
  | object
  | unsupported
  | unexpected
deriving DecidableEq, Repr

def Construct.typeForm : Construct → TypeForm
  | anyKeyword => .keyword .any
  | unknownKeyword => .keyword .unknown
  | neverKeyword => .keyword .never
  | undefinedKeyword => .keyword .undefined
  | voidKeyword => .keyword .void
  | booleanKeyword => .keyword .boolean
  | numberKeyword => .keyword .number
  | stringKeyword => .keyword .string
  | literalType => .literal
  | typeReference => .reference
  | unionType => .union
  | arrayType => .array
  | tupleType => .tuple
  | functionType => .function
  | typeLiteral => .object
  | symbolKeyword => .unsupported
  | objectKeyword => .unsupported
  | intersectionType => .unsupported
  | constructorType => .unsupported
  | mappedType => .unsupported
  | typePredicate => .unsupported
  | typeQuery => .unsupported
  | typeOperator => .unsupported
  | indexedAccessType => .unsupported
  | conditionalType => .unsupported
  | inferType => .unsupported
  | parenthesizedType => .unsupported
  | thisType => .unsupported
  | optionalType => .unsupported
  | restType => .unsupported
  | namedTupleMember => .unsupported
  | templateLiteralType => .unsupported
  | importType => .unsupported
  | _ => .unexpected

def Construct.isUnsupportedMember (c : Construct) : Bool :=
  [callSignature, constructSignature, methodSignature, getAccessor, setAccessor,
    indexSignature].contains c

namespace Node

def isDotted (n : Node) : Bool :=
  ["nested_identifier", "nested_type_identifier", "member_expression"].contains n.kind

def nameSegments (n : Node) : List String :=
  if n.isDotted then
    n.parts.attach.flatMap fun ⟨c, h⟩ =>
      have := size_part h
      nameSegments c
  else [n.text]
termination_by n.size

def qualifiedName (n : Node) : QualifiedName := ⟨n.nameSegments⟩

-- The name that a parameter binds, if it is not a destructuring pattern.
def boundName? (n : Node) : Option String :=
  if n.kind = "identifier" ∨ n.kind = "this" then some n.text else none

def propertyKey (member : Node) : Except Fault PropertyKey :=
  match member.field? "name" with
  | none => .error .namelessProperty
  | some name =>
    match name.construct with
    | .identifier => .ok (.identifier name.text)
    | .stringLiteral =>
      match Text.decodeString name.text with
      | some value => .ok (.string value name.text)
      | none => .error .malformedPropertyName
    | _ => .error (.unsupportedPropertyName name.kind)

def isAnnotating (n : Node) : Bool :=
  ["type_annotation", "type_predicate_annotation", "asserts_annotation",
    "opting_type_annotation", "omitting_type_annotation"].contains n.kind

end Node

namespace TypeExpr

-- A numeric literal; with a sign, the raw text is that of the whole signed literal.
def ofDigits (type : Node) (digits : String) (signed : Option String) : TypeExpr :=
  match Number.readLiteral digits, signed with
  | some value, some raw => .literal (.number value.neg raw)
  | some value, none => .literal (.number value digits)
  | none, _ => .invalid type.quote .malformedNumber

def ofSigned (type value : Node) : TypeExpr :=
  let negative := match value.field? "operator" with
    | some operator => operator.text = "-"
    | none => value.hasToken "-"
  match value.field? "argument" <|> value.firstPart? with
  | some argument =>
    if negative && argument.construct = .numericLiteral then
      ofDigits type argument.text (some value.text)
    else .invalid type.quote (.unexpectedSigned value.text)
  | none => .invalid type.quote (.unexpectedSigned value.text)

def ofNumeric (type value : Node) : TypeExpr :=
  match value.firstPart? with
  | some digits =>
    if value.hasToken "-" then ofDigits type digits.text (some value.text)
    else ofDigits type value.text none
  | none => ofDigits type value.text none

def ofLiteral (type : Node) : TypeExpr :=
  match type.firstPart? with
  | none => .invalid type.quote .emptyLiteralType
  | some node =>
    match node.construct with
    | .nullKeyword => .literal .null
    | .trueKeyword => .literal (.boolean true "true")
    | .falseKeyword => .literal (.boolean false "false")
    | .numericLiteral => ofNumeric type node
    | .prefixUnaryExpression => ofSigned type node
    | .stringLiteral =>
      match Text.decodeString node.text with
      | some value => .literal (.string value node.text)
      | none => .invalid type.quote .malformedString
    | _ => .invalid type.quote (.unexpectedLiteral node.describe)

inductive ParamForm where
  | plain (param : Param TypeExpr)
  | rest (param : Param TypeExpr)

-- Nothing is read after a rest parameter.
def splitRest : List ParamForm → List (Param TypeExpr) × Option (Param TypeExpr)
  | [] => ([], none)
  | .rest param :: _ => ([], some param)
  | .plain param :: forms => (param :: (splitRest forms).1, (splitRest forms).2)

-- Every call goes to a node further down, or to the same node in the order of the measures.
mutual
def ofNode (n : Node) : TypeExpr :=
  match n.construct.typeForm with
  | .keyword word => .keyword word
  | .literal => ofLiteral n
  | .reference =>
    if n.kind = "generic_type" then
      match n.field? "name" with
      | some name => .reference n.quote name.qualifiedName (typeArguments n)
      | none => .invalid n.quote .namelessReference
    else .reference n.quote n.qualifiedName []
  | .union => .union (unionMembers n)
  | .array =>
    match h : n.firstPart? with
    | some element =>
      have := Node.size_first_part h
      .array (ofNode element)
    | none => .invalid n.quote .arrayWithoutElement
  | .tuple => .tuple (ofParts n)
  | .function => .function (signature n)
  | .object => .object n.quote (untilFault (members n)).1 (untilFault (members n)).2
  | .unsupported => .unsupported n.quote n.construct
  | .unexpected => .invalid n.quote (.unexpectedType n.describe)
termination_by 4 * n.size + 2

-- An annotation, or a type where the grammar puts one directly.
def ofAnnotated (n : Node) : TypeExpr :=
  if n.isAnnotating then
    match h : n.firstPart? with
    | some type =>
      have := Node.size_first_part h
      ofNode type
    | none => .invalid n.quote .annotationWithoutType
  else ofNode n
termination_by 4 * n.size + 3

def ofParts (n : Node) : List TypeExpr :=
  n.parts.attach.map fun ⟨c, h⟩ =>
    have := Node.size_part h
    ofNode c
termination_by 4 * n.size

-- The grammar nests unions to the left; the members are those written.
def unionMembers (n : Node) : List TypeExpr :=
  n.parts.attach.flatMap fun ⟨c, h⟩ =>
    have := Node.size_part h
    if c.kind = "union_type" then unionMembers c else [ofNode c]
termination_by 4 * n.size

def typeArguments (n : Node) : List TypeExpr :=
  match h : n.field? "type_arguments" with
  | some list =>
    have := Node.size_field h
    ofParts list
  | none => []
termination_by 4 * n.size

def annotated (n : Node) (field : String) : Option TypeExpr :=
  match h : n.field? field with
  | some type =>
    have := Node.size_field h
    some (ofAnnotated type)
  | none => none
termination_by 4 * n.size

def clauseType (n : Node) (field : String) : Option TypeExpr :=
  match h : n.field? field with
  | some clause =>
    have := Node.size_field h
    match h : clause.firstPart? with
    | some type =>
      have := Node.size_first_part h
      some (ofNode type)
    | none => none
  | none => none
termination_by 4 * n.size

def signature (n : Node) : Signature TypeExpr :=
  ⟨typeParams n, (splitRest (params n)).1, (splitRest (params n)).2,
    (annotated n "return_type").getD (.keyword .any)⟩
termination_by 4 * n.size + 1

def typeParams (n : Node) : Option (List (TypeParam TypeExpr)) :=
  match h : n.field? "type_parameters" with
  | some list =>
    have := Node.size_field h
    some (list.parts.attach.filterMap fun ⟨c, h⟩ =>
      have := Node.size_part h
      if c.kind = "type_parameter" then some (typeParam c) else none)
  | none => none
termination_by 4 * n.size

def typeParam (n : Node) : TypeParam TypeExpr :=
  ⟨((n.field? "name").map Node.text).getD "", clauseType n "constraint", clauseType n "value"⟩
termination_by 4 * n.size + 1

def params (n : Node) : List ParamForm :=
  match h : n.field? "parameters" with
  | some list =>
    have := Node.size_field h
    list.parts.attach.map fun ⟨c, h⟩ =>
      have := Node.size_part h
      param c
  | none => []
termination_by 4 * n.size

def param (n : Node) : ParamForm :=
  let optional := n.kind = "optional_parameter"
  match n.field? "pattern" with
  | none => .plain ⟨none, (annotated n "type").getD (.keyword .any), optional⟩
  | some pattern =>
    if pattern.kind = "rest_pattern" then
      .rest ⟨pattern.firstPart?.bind Node.boundName?,
        (annotated n "type").getD (.array (.keyword .any)), false⟩
    else .plain ⟨pattern.boundName?, (annotated n "type").getD (.keyword .any), optional⟩
termination_by 4 * n.size + 1

def members (n : Node) : List (Except Fault (Property TypeExpr)) :=
  n.parts.attach.map fun ⟨c, h⟩ =>
    have := Node.size_part h
    member c
termination_by 4 * n.size

def member (n : Node) : Except Fault (Property TypeExpr) :=
  if n.construct = .propertySignature then
    n.propertyKey.map fun key =>
      ⟨key, (annotated n "type").getD (.keyword .any), n.hasToken "?"⟩
  else if n.construct.isUnsupportedMember then .error (.unsupportedMember n.construct)
  else .error (.unexpectedMember n.describe)
termination_by 4 * n.size + 1
end

end TypeExpr

end FlowDefs
