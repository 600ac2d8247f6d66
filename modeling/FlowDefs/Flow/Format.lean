import FlowDefs.Flow.Printer
import FlowDefs.Json.Printer
import FlowDefs.Number.Layout
set_option autoImplicit false

namespace FlowDefs

def variant (name : String) (value : Json) : Json := .object [(name, value)]

-- JSON has no infinities and no NaN.
def encodeNumber (x : Number.Binary64) : Json :=
  match x.text? .json with
  | some text => .number text
  | none => .null

namespace Comment

def encode (c : Comment) : Json :=
  .object [("text", .string c.text),
    ("placement", .string (match c.placement with | .leading => "leading" | .trailing => "trailing"))]

def encodeAll (comments : List Comment) : Json := .array (comments.map encode)

end Comment

def Primitive.encode : Primitive → Json
  | .any => .string "any"
  | .mixed => .string "mixed"
  | .empty => .string "empty"
  | .void => .string "void"
  | .boolean => .string "boolean"
  | .number => .string "number"
  | .string => .string "string"

def encodeLiteral (value : Json) (raw : String) : Json :=
  .object [("value", value), ("raw", .string raw)]

def Literal.encode : Literal → Json
  | .null => .string "null"
  | .boolean value raw => variant "boolean_literal" (encodeLiteral (.bool value) raw)
  | .number value raw => variant "number_literal" (encodeLiteral (encodeNumber value) raw)
  | .string value raw => variant "string_literal" (encodeLiteral (.string value) raw)

def QualifiedName.encode (name : QualifiedName) : Json := .strings name.segments

def PropertyKey.encode : PropertyKey → Json
  | .identifier name => variant "identifier" (.string name)
  | .string value raw => variant "string" (encodeLiteral (.string value) raw)

namespace FlowType

mutual
def encode : FlowType → Json
  | .primitive word => word.encode
  | .literal value => value.encode
  | .reference name arguments comments =>
    variant "generic" (.object [("id", name.encode), ("type_args", encodeArguments arguments),
      ("comments", Comment.encodeAll comments)])
  | .union members => variant "union" (.array (encodeAll members))
  | .array element => variant "array" (encode element)
  | .tuple elements => variant "tuple" (.array (encodeAll elements))
  | .function signature => variant "function" (encodeSignature signature)
  | .object properties exact inexact =>
    variant "object" (.object [("properties", .array (encodeProperties properties)),
      ("exact", .bool exact), ("inexact", .bool inexact)])
def encodeArguments : Option (List FlowType) → Json
  | none => .null
  | some types => .array (encodeAll types)
def encodeAll : List FlowType → List Json
  | [] => []
  | t :: ts => encode t :: encodeAll ts
def encodeOption : Option FlowType → Json
  | none => .null
  | some t => encode t
def encodeSignature : Signature FlowType → Json
  | ⟨typeParams, params, rest, result⟩ =>
    .object [("type_params", encodeTypeParams typeParams), ("params", .array (encodeParams params)),
      ("rest", encodeRest rest), ("return_type", encode result)]
def encodeTypeParams : Option (List (TypeParam FlowType)) → Json
  | none => .null
  | some params => .array (encodeTypeParamList params)
def encodeTypeParamList : List (TypeParam FlowType) → List Json
  | [] => []
  | ⟨name, bound, default⟩ :: params =>
    .object [("name", .string name), ("bound", encodeOption bound),
      ("default", encodeOption default)] :: encodeTypeParamList params
def encodeParam : Param FlowType → Json
  | ⟨name, type, optional⟩ =>
    .object [("name", .ofOption .string name), ("type_annotation", encode type),
      ("optional", .bool optional)]
def encodeParams : List (Param FlowType) → List Json
  | [] => []
  | p :: params => encodeParam p :: encodeParams params
def encodeRest : Option (Param FlowType) → Json
  | none => .null
  | some p => encodeParam p
def encodeProperties : List (Property FlowType) → List Json
  | [] => []
  | ⟨key, value, optional⟩ :: properties =>
    .object [("key", key.encode), ("value", encode value), ("optional", .bool optional)]
      :: encodeProperties properties
end

end FlowType

def ImportKind.encode : ImportKind → Json
  | .value => .string "value"
  | .type => .string "type"

def ImportSpecifier.encode : ImportSpecifier → Json
  | .default localName => variant "default" (.object [("local", .string localName)])
  | .wholeModule localName => variant "namespace" (.object [("local", .string localName)])
  | .named imported localName kind =>
    variant "named" (.object [("imported", .string imported), ("local", .string localName),
      ("kind", .ofOption ImportKind.encode kind)])

def ImportDeclaration.encode (d : ImportDeclaration) : Json :=
  .object [("kind", d.kind.encode), ("specifiers", .array (d.specifiers.map ImportSpecifier.encode)),
    ("source", .string d.source)]

def Variable.encode (v : Variable FlowType) : Json :=
  .object [("name", .string v.name), ("type_annotation", FlowType.encodeOption v.type)]

def Declaration.encode : Declaration FlowType → Json
  | .vars names =>
    variant "variable" (.object [("declarations", .array (names.map Variable.encode))])
  | .typeAlias id typeParams right =>
    variant "type_alias" (.object [("id", .string id),
      ("type_params", FlowType.encodeTypeParams typeParams), ("right", right.encode)])
  | .function id signature =>
    variant "function" (.object [("id", .string id),
      ("signature", FlowType.encodeSignature signature)])

def DefaultExport.encode : DefaultExport → Json
  | .identifier name => variant "identifier" (.string name)
  | .declaration d => variant "declaration" d.encode

def Statement.encode : Statement → Json
  | .empty comments => variant "empty" (.object [("comments", Comment.encodeAll comments)])
  | .importing d => variant "import" d.encode
  | .exportDefault target => variant "export_default" target.encode
  | .exportNamed d => variant "export_named" d.encode
  | .declaration d => variant "declaration" d.encode

def Span.encode (span : Span) : Json :=
  .object [("start", .ofNat span.start), ("end", .ofNat span.stop)]

def Diagnostic.encode (d : Diagnostic) : Json :=
  .object [("message", .string d.message), ("span", .ofOption Span.encode d.span)]

def File.encode (file : File) : Json :=
  .object [("name", .string file.name), ("header", .strings file.header),
    ("imports", .array (file.imports.map ImportDeclaration.encode)),
    ("body", .array (file.body.map Statement.encode))]

def ConvertedFile.encode (converted : ConvertedFile) : Json :=
  .object [("file", converted.file.encode),
    ("diagnostics", .array (converted.diagnostics.map Diagnostic.encode))]

inductive Format where
  | flow
  | json
deriving DecidableEq, Repr

namespace Format

def all : List Format := [.flow, .json]

def name : Format → String
  | .flow => "flow"
  | .json => "json"

def extension : Format → String
  | .flow => "js.flow"
  | .json => "json"

def ofName? (name : String) : Option Format := all.find? fun f => f.name = name

def write (converted : ConvertedFile) : Format → String
  | .flow => converted.file.print
  | .json => converted.encode.pretty

end Format

end FlowDefs
