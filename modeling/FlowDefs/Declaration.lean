import FlowDefs.Number.Binary64
set_option autoImplicit false

namespace FlowDefs

def Text.join (mark : String) : List String → String
  | [] => ""
  | [t] => t
  | t :: u :: ts => t ++ mark ++ join mark (u :: ts)

structure QualifiedName where
  segments : List String
deriving DecidableEq, Repr

def QualifiedName.bare (name : String) : QualifiedName := ⟨[name]⟩

def QualifiedName.text (name : QualifiedName) : String := Text.join "." name.segments

-- The raw text is the literal as written in the source.
inductive Literal where
  | null
  | boolean (value : Bool) (raw : String)
  | number (value : Number.Binary64) (raw : String)
  | string (value : String) (raw : String)
deriving DecidableEq, Repr

def Literal.text : Literal → String
  | .null => "null"
  | .boolean _ raw => raw
  | .number _ raw => raw
  | .string _ raw => raw

structure TypeParam (τ : Type) where
  name : String
  bound : Option τ
  default : Option τ

structure Param (τ : Type) where
  -- A destructuring pattern gives no name.
  name : Option String
  type : τ
  optional : Bool

structure Signature (τ : Type) where
  typeParams : Option (List (TypeParam τ))
  params : List (Param τ)
  rest : Option (Param τ)
  result : τ

inductive PropertyKey where
  | identifier (name : String)
  | string (value : String) (raw : String)
deriving DecidableEq, Repr

def PropertyKey.text : PropertyKey → String
  | .identifier name => name
  | .string _ raw => raw

structure Property (τ : Type) where
  key : PropertyKey
  value : τ
  optional : Bool

structure Variable (τ : Type) where
  name : String
  type : Option τ

inductive Declaration (τ : Type) where
  | vars (names : List (Variable τ))
  | typeAlias (id : String) (typeParams : Option (List (TypeParam τ))) (right : τ)
  | function (id : String) (signature : Signature τ)

inductive ImportKind where
  | value
  | type
deriving DecidableEq, Repr

-- The local name is the one that the importing file uses.
inductive ImportSpecifier where
  | default (localName : String)
  | wholeModule (localName : String)
  | named (imported : String) (localName : String) (kind : Option ImportKind)
deriving DecidableEq, Repr

structure ImportDeclaration where
  kind : ImportKind
  specifiers : List ImportSpecifier
  source : String
deriving DecidableEq, Repr

end FlowDefs
