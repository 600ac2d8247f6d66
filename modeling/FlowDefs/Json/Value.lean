set_option autoImplicit false

namespace FlowDefs

-- Numbers keep their written form and objects the order of their members.
inductive Json where
  | null
  | bool (value : Bool)
  | number (lexeme : String)
  | string (value : String)
  | array (items : List Json)
  | object (members : List (String × Json))

namespace Json

def ofNat (n : Nat) : Json := .number (Nat.repr n)

def strings (texts : List String) : Json := .array (texts.map .string)

def ofOption {α : Type} (encode : α → Json) : Option α → Json
  | none => .null
  | some x => encode x

def get? (name : String) : Json → Option Json
  | .object members => members.lookup name
  | _ => none

def string? : Json → Option String
  | .string value => some value
  | _ => none

def bool? : Json → Option Bool
  | .bool value => some value
  | _ => none

def array? : Json → Option (List Json)
  | .array items => some items
  | _ => none

def object? : Json → Option (List (String × Json))
  | .object members => some members
  | _ => none

def nat? : Json → Option Nat
  | .number lexeme => lexeme.toNat?
  | _ => none

-- An absent or null member reads as nothing, any other must decode.
def optional? {α : Type} (decode : Json → Option α) : Option Json → Option (Option α)
  | none => some none
  | some .null => some none
  | some value => (decode value).map some

def strings? (value : Json) : Option (List String) := do
  let items ← value.array?
  items.mapM string?

end Json

end FlowDefs
