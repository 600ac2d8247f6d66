import FlowDefs.Declaration
set_option autoImplicit false

namespace FlowDefs

inductive Placement where
  | leading
  | trailing
deriving DecidableEq, Repr

structure Comment where
  text : String
  placement : Placement
deriving DecidableEq, Repr

inductive Primitive where
  | any
  | mixed
  | empty
  | void
  | boolean
  | number
  | string
deriving DecidableEq, Repr

inductive FlowType where
  | primitive (word : Primitive)
  | literal (value : Literal)
  | reference (name : QualifiedName) (arguments : Option (List FlowType))
      (comments : List Comment)
  | union (members : List FlowType)
  | array (element : FlowType)
  | tuple (elements : List FlowType)
  | function (signature : Signature FlowType)
  | object (properties : List (Property FlowType)) (exact : Bool) (inexact : Bool)

namespace FlowType

def fixme : QualifiedName := .bare "$FlowFixMe"

def bare (name : String) : FlowType := .reference (.bare name) none []

def isFunction : FlowType → Bool
  | .function _ => true
  | _ => false

def comments : FlowType → List Comment
  | .reference _ _ comments => comments
  | _ => []

def isPlaceholder : FlowType → Bool
  | .reference name _ comments => name = fixme && !comments.isEmpty
  | _ => false

mutual
-- The placeholders in a type, itself included.
def placeholders : FlowType → Nat
  | .reference name arguments comments =>
    (if name = fixme && !comments.isEmpty then 1 else 0) + placeholdersOfArguments arguments
  | .union members => placeholdersOfAll members
  | .array element => placeholders element
  | .tuple elements => placeholdersOfAll elements
  | .function signature => placeholdersOfSignature signature
  | .object properties _ _ => placeholdersOfProperties properties
  | _ => 0
def placeholdersOfArguments : Option (List FlowType) → Nat
  | none => 0
  | some types => placeholdersOfAll types
def placeholdersOfAll : List FlowType → Nat
  | [] => 0
  | t :: ts => placeholders t + placeholdersOfAll ts
def placeholdersOfOption : Option FlowType → Nat
  | none => 0
  | some t => placeholders t
def placeholdersOfSignature : Signature FlowType → Nat
  | ⟨typeParams, params, rest, result⟩ =>
    placeholdersOfTypeParams typeParams + placeholdersOfParams params + placeholdersOfRest rest
      + placeholders result
def placeholdersOfTypeParams : Option (List (TypeParam FlowType)) → Nat
  | none => 0
  | some params => placeholdersOfTypeParamList params
def placeholdersOfTypeParamList : List (TypeParam FlowType) → Nat
  | [] => 0
  | ⟨_, bound, default⟩ :: params =>
    placeholdersOfOption bound + placeholdersOfOption default + placeholdersOfTypeParamList params
def placeholdersOfParams : List (Param FlowType) → Nat
  | [] => 0
  | ⟨_, type, _⟩ :: params => placeholders type + placeholdersOfParams params
def placeholdersOfRest : Option (Param FlowType) → Nat
  | none => 0
  | some ⟨_, type, _⟩ => placeholders type
def placeholdersOfProperties : List (Property FlowType) → Nat
  | [] => 0
  | ⟨_, value, _⟩ :: properties => placeholders value + placeholdersOfProperties properties
end

end FlowType

end FlowDefs
