set_option autoImplicit false

namespace FlowDefs

-- A range of byte offsets.
structure Span where
  start : Nat
  stop : Nat
deriving DecidableEq, Repr

-- A node of the tree, with the names under which its parent finds it and the kind of that parent.
structure Node where
  kind : String
  fields : List String
  -- Keywords and punctuation are not named; their kind is their spelling.
  named : Bool
  span : Span
  text : String
  parent : String
  children : List Node

structure Quote where
  text : String
  span : Span
deriving DecidableEq, Repr

namespace Node

def quote (n : Node) : Quote := ⟨n.text, n.span⟩

def isComment (n : Node) : Bool := n.kind = "comment"

def parts (n : Node) : List Node := n.children.filter fun c => c.named && !c.isComment

def firstPart? (n : Node) : Option Node := n.parts.head?

def field? (n : Node) (name : String) : Option Node :=
  n.children.find? fun c => c.fields.contains name

def childOfKind? (n : Node) (kind : String) : Option Node :=
  n.children.find? fun c => c.named && c.kind = kind

def hasToken (n : Node) (token : String) : Bool :=
  n.children.any fun c => !c.named && c.kind = token

mutual
def size : Node → Nat
  | ⟨_, _, _, _, _, _, children⟩ => sizes children + 1
def sizes : List Node → Nat
  | [] => 0
  | c :: cs => size c + sizes cs
end

theorem size_child {n c : Node} (h : c ∈ n.children) : c.size < n.size := by
  have member (cs : List Node) (h : c ∈ cs) : c.size ≤ sizes cs := by
    induction cs with
    | nil => cases h
    | cons d ds ih =>
      simp only [sizes]
      cases h with
      | head => omega
      | tail _ h => have := ih h; omega
  have := member n.children h
  obtain ⟨_, _, _, _, _, _, cs⟩ := n
  simp only [size]
  simp only at this
  omega

theorem size_part {n c : Node} (h : c ∈ n.parts) : c.size < n.size :=
  size_child (List.mem_filter.1 h).1

theorem size_first_part {n c : Node} (h : n.firstPart? = some c) : c.size < n.size :=
  size_part (List.mem_of_head? h)

theorem size_field {n c : Node} {name : String} (h : n.field? name = some c) :
    c.size < n.size :=
  size_child (List.mem_of_find?_eq_some h)

-- The named nodes of the tree from the root down, no comment and nothing below one.
def walk (n : Node) : List Node :=
  n :: n.parts.attach.flatMap fun ⟨c, h⟩ =>
    have := size_part h
    walk c
termination_by n.size

end Node

end FlowDefs
