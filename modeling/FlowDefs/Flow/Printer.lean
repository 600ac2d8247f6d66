import FlowDefs.Flow.Statement
import FlowDefs.Text.StringLiteral
set_option autoImplicit false

namespace FlowDefs

namespace Text

-- Breaks every comment end apart, reading from the left.
def breakCommentEnds : List Char → List Char
  | '*' :: '/' :: cs => '*' :: '\\' :: '/' :: breakCommentEnds cs
  | c :: cs => c :: breakCommentEnds cs
  | [] => []

def commentText (text : String) : String := String.ofList (breakCommentEnds text.toList)

def blockComment (text : String) : String := "/* " ++ commentText text ++ " */"

end Text

open Text

def Primitive.text : Primitive → String
  | .any => "any"
  | .mixed => "mixed"
  | .empty => "empty"
  | .void => "void"
  | .boolean => "boolean"
  | .number => "number"
  | .string => "string"

namespace Comment

def isLeading (c : Comment) : Bool := c.placement = .leading

def isTrailing (c : Comment) : Bool := c.placement = .trailing

def print (c : Comment) : String := blockComment c.text

end Comment

def concat (texts : List String) : String := join "" texts

def printBefore (mark : String) (comments : List Comment) : String :=
  concat ((comments.filter Comment.isLeading).map fun c => c.print ++ mark)

def printAfter (comments : List Comment) : String :=
  concat ((comments.filter Comment.isTrailing).map fun c => " " ++ c.print)

def printParamName : Option String → Bool → String
  | none, _ => ""
  | some name, optional => name ++ (if optional then "?" else "") ++ ": "

def printProperties (properties : List String) (exact inexact : Bool) : String :=
  let left := if exact then "\x7b|" else "\x7b"
  let right := if exact then "|\x7d" else "\x7d"
  if properties.isEmpty then left ++ (if inexact then "..." else "") ++ right
  else left ++ " " ++ join ", " properties ++ (if inexact then ", ..." else "") ++ " " ++ right

namespace FlowType

mutual
def print : FlowType → String
  | .primitive word => word.text
  | .literal value => value.text
  | .reference name arguments comments =>
    printBefore " " comments ++ name.text ++ printArguments arguments ++ printAfter comments
  | .union members => join " | " (printMembers members)
  | .array element => "Array<" ++ print element ++ ">"
  | .tuple elements => "[" ++ join ", " (printAll elements) ++ "]"
  | .function signature => printSignature " => " signature
  | .object properties exact inexact =>
    FlowDefs.printProperties (printPropertyList properties) exact inexact
def printArguments : Option (List FlowType) → String
  | none => ""
  | some types => "<" ++ join ", " (printAll types) ++ ">"
def printAll : List FlowType → List String
  | [] => []
  | t :: ts => print t :: printAll ts
-- A bare function type would take the rest of the union into its result.
def printMembers : List FlowType → List String
  | [] => []
  | t :: ts => (if t.isFunction then "(" ++ print t ++ ")" else print t) :: printMembers ts
def printSignature (arrow : String) : Signature FlowType → String
  | ⟨typeParams, params, rest, result⟩ =>
    printTypeParams typeParams ++ "(" ++ join ", " (printParams params ++ printRest rest) ++ ")"
      ++ arrow ++ print result
def printTypeParams : Option (List (TypeParam FlowType)) → String
  | none => ""
  | some params => "<" ++ join ", " (printTypeParamList params) ++ ">"
def printTypeParamList : List (TypeParam FlowType) → List String
  | [] => []
  | ⟨name, bound, default⟩ :: params =>
    (name ++ printOption ": " bound ++ printOption " = " default) :: printTypeParamList params
def printOption (mark : String) : Option FlowType → String
  | none => ""
  | some t => mark ++ print t
def printParams : List (Param FlowType) → List String
  | [] => []
  | ⟨name, type, optional⟩ :: params =>
    (printParamName name optional ++ print type) :: printParams params
def printRest : Option (Param FlowType) → List String
  | none => []
  | some ⟨name, type, optional⟩ => ["..." ++ printParamName name optional ++ print type]
def printPropertyList : List (Property FlowType) → List String
  | [] => []
  | ⟨key, value, optional⟩ :: properties =>
    (key.text ++ (if optional then "?" else "") ++ ": " ++ print value)
      :: printPropertyList properties
end

end FlowType

namespace ImportSpecifier

def print : ImportSpecifier → String
  | .default localName => localName
  | .wholeModule localName => "* as " ++ localName
  | .named imported localName kind =>
    (if kind = some .type then "type " else "") ++ imported
      ++ (if localName = imported then "" else " as " ++ localName)

def isNamed : ImportSpecifier → Bool
  | .named _ _ _ => true
  | _ => false

end ImportSpecifier

namespace ImportDeclaration

-- The named specifiers stand together in braces, after the others.
def clause (d : ImportDeclaration) : List String :=
  let named := (d.specifiers.filter fun s => s.isNamed).map ImportSpecifier.print
  (d.specifiers.filter fun s => !s.isNamed).map ImportSpecifier.print
    ++ (if named.isEmpty then [] else ["\x7b " ++ join ", " named ++ " \x7d"])

def print (d : ImportDeclaration) : String :=
  "import " ++ (if d.kind = .type then "type " else "")
    ++ (if d.clause.isEmpty then "" else join ", " d.clause ++ " from ")
    ++ quoteModule d.source ++ ";"

end ImportDeclaration

inductive ExportPosition where
  | none
  | named
  | default
deriving DecidableEq, Repr

namespace Declaration

def printVariable (keyword : String) (v : Variable FlowType) : String :=
  keyword ++ v.name ++ FlowType.printOption ": " v.type ++ ";"

-- Flow declares one variable a statement, and has no default export of variables.
def print (position : ExportPosition) : Declaration FlowType → String
  | .vars names =>
    let keyword := if position = .none then "declare var " else "declare export var "
    join "\n" (names.map (printVariable keyword))
  | .typeAlias id typeParams right =>
    (if position = .none then "" else "export ") ++ "type " ++ id
      ++ FlowType.printTypeParams typeParams ++ " = " ++ right.print ++ ";"
  | .function id signature =>
    let keyword := match position with
      | .none => "declare function "
      | .named => "declare export function "
      | .default => "declare export default function "
    keyword ++ id ++ FlowType.printSignature ": " signature ++ ";"

end Declaration

def Statement.print : Statement → String
  | .empty comments => printBefore "\n" comments ++ ";" ++ printAfter comments
  | .importing d => d.print
  | .exportDefault (.identifier name) => "export default " ++ name ++ ";"
  | .exportDefault (.declaration d) => d.print .default
  | .exportNamed d => d.print .named
  | .declaration d => d.print .none

namespace File

def printHeader : List String → String
  | [] => ""
  | first :: rest =>
    "/* " ++ commentText first ++ "\n"
      ++ concat (rest.map fun line => " * " ++ commentText line ++ "\n") ++ " */\n"

def printLines (lines : List String) : String := concat (lines.map fun line => line ++ "\n")

def print (file : File) : String :=
  printHeader file.header ++ "\n"
    ++ printLines (file.imports.map ImportDeclaration.print)
    ++ (if file.imports.isEmpty then "" else "\n")
    ++ printLines (file.body.map Statement.print)

end File

end FlowDefs
