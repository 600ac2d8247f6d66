set_option autoImplicit false

namespace FlowDefs

structure Substitution where
  importName : String
  localName : String
  module : String
deriving DecidableEq, Repr

-- The translations that are no mere change of name.
inductive Expansion where
  | component
  | reactElement
deriving DecidableEq, Repr

inductive Rule where
  | expand (expansion : Expansion)
  | substitute (substitution : Substitution)
deriving DecidableEq, Repr

-- The later of two entries of one name replaces the earlier.
def assign {α : Type} (name : String) (value : α) (entries : List (String × α)) :
    List (String × α) :=
  (name, value) :: entries.filter fun entry => entry.1 ≠ name

structure Table where
  rules : List (String × Rule)
  namespaces : List (String × Table)

namespace Table

def empty : Table := ⟨[], []⟩

def withRule (t : Table) (name : String) (rule : Rule) : Table :=
  ⟨assign name rule t.rules, t.namespaces⟩

def withNamespace (t : Table) (name : String) (inner : Table) : Table :=
  ⟨t.rules, assign name inner t.namespaces⟩

def get? (t : Table) (name : String) : Option Rule := t.rules.lookup name

-- A name of one segment, or of two through a namespace; rules nested deeper have no name.
def lookup (t : Table) : List String → Option Rule
  | [name] => t.get? name
  | [space, name] => (t.namespaces.lookup space).bind fun inner => inner.get? name
  | _ => none

def sortNames (names : List String) : List String := names.mergeSort fun a b => decide (a ≤ b)

def ruleNames (t : Table) : List String :=
  let nested := t.namespaces.flatMap fun (space, inner) =>
    inner.rules.map fun (name, _) => space ++ "." ++ name
  sortNames (t.rules.map (·.1) ++ nested)

end Table

end FlowDefs
