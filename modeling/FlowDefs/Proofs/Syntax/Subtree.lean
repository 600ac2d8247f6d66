import FlowDefs.Syntax.Construct
set_option autoImplicit false

namespace FlowDefs.Node

-- Unlike walk, this lists the tokens and the comments too, and what is below them.
mutual
def nodes : Node → List Node
  | ⟨kind, fields, named, span, text, parent, children⟩ =>
    ⟨kind, fields, named, span, text, parent, children⟩ :: nodesOfAll children
def nodesOfAll : List Node → List Node
  | [] => []
  | c :: cs => nodes c ++ nodesOfAll cs
end

theorem nodes_eq (n : Node) : n.nodes = n :: nodesOfAll n.children := by
  cases n
  rfl

theorem mem_nodes_of_all (d : Node) (cs : List Node) :
    d ∈ nodesOfAll cs ↔ ∃ c ∈ cs, d ∈ c.nodes := by
  induction cs with
  | nil => simp [nodesOfAll]
  | cons c cs ih => simp [nodesOfAll, ih]

theorem mem_nodes (d n : Node) : d ∈ n.nodes ↔ d = n ∨ ∃ c ∈ n.children, d ∈ c.nodes := by
  rw [nodes_eq, List.mem_cons, mem_nodes_of_all]

theorem self_mem_nodes (n : Node) : n ∈ n.nodes := (mem_nodes n n).mpr (.inl rfl)

theorem child_mem_nodes (d c n : Node) (child : c ∈ n.children) (inside : d ∈ c.nodes) :
    d ∈ n.nodes :=
  (mem_nodes d n).mpr (.inr ⟨c, child, inside⟩)

theorem nodes_trans (d c n : Node) (lower : d ∈ c.nodes) (upper : c ∈ n.nodes) : d ∈ n.nodes := by
  rcases (mem_nodes c n).mp upper with rfl | ⟨b, child, inside⟩
  · exact lower
  · have smaller := size_child child
    exact child_mem_nodes d b n child (nodes_trans d c b lower inside)
termination_by n.size

theorem child_of_part (c n : Node) (part : c ∈ n.parts) : c ∈ n.children :=
  (List.mem_filter.mp part).1

theorem child_of_first_part (c n : Node) (first : n.firstPart? = some c) : c ∈ n.children :=
  child_of_part c n (List.mem_of_head? first)

theorem child_of_field (c n : Node) (name : String) (found : n.field? name = some c) :
    c ∈ n.children :=
  List.mem_of_find?_eq_some found

theorem part_mem_nodes (c n : Node) (part : c ∈ n.parts) : c ∈ n.nodes :=
  child_mem_nodes c c n (child_of_part c n part) (self_mem_nodes c)

theorem first_part_mem_nodes (c n : Node) (first : n.firstPart? = some c) : c ∈ n.nodes :=
  child_mem_nodes c c n (child_of_first_part c n first) (self_mem_nodes c)

theorem field_mem_nodes (c n : Node) (name : String) (found : n.field? name = some c) :
    c ∈ n.nodes :=
  child_mem_nodes c c n (child_of_field c n name found) (self_mem_nodes c)

def innerNodes (n : Node) : List Node := nodesOfAll n.children

theorem mem_inner (d n : Node) : d ∈ n.innerNodes ↔ ∃ c ∈ n.children, d ∈ c.nodes :=
  mem_nodes_of_all d n.children

theorem inner_nodes (d n : Node) (inside : d ∈ n.innerNodes) : d ∈ n.nodes :=
  (mem_nodes d n).mpr (.inr ((mem_inner d n).mp inside))

theorem inner_mem_nodes (d c n : Node) (lower : d ∈ c.innerNodes) (upper : c ∈ n.nodes) :
    d ∈ n.nodes :=
  nodes_trans d c n (inner_nodes d c lower) upper

theorem part_inner (c n : Node) (part : c ∈ n.parts) : c ∈ n.innerNodes :=
  (mem_inner c n).mpr ⟨c, child_of_part c n part, self_mem_nodes c⟩

theorem first_part_inner (c n : Node) (first : n.firstPart? = some c) : c ∈ n.innerNodes :=
  part_inner c n (List.mem_of_head? first)

theorem field_inner (c n : Node) (name : String) (found : n.field? name = some c) :
    c ∈ n.innerNodes :=
  (mem_inner c n).mpr ⟨c, child_of_field c n name found, self_mem_nodes c⟩

theorem inner_trans (d c n : Node) (lower : d ∈ c.innerNodes) (upper : c ∈ n.innerNodes) : d ∈ n.innerNodes := by
  obtain ⟨b, child, inside⟩ := (mem_inner c n).mp upper
  exact (mem_inner d n).mpr ⟨b, child, nodes_trans d c b (inner_nodes d c lower) inside⟩

theorem size_of_mem_nodes (d n : Node) (inside : d ∈ n.nodes) : d.size ≤ n.size := by
  rcases (mem_nodes d n).mp inside with rfl | ⟨c, child, deeper⟩
  · exact Nat.le_refl _
  · have smaller := size_child child
    have deep := size_of_mem_nodes d c deeper
    omega
termination_by n.size

theorem size_inner (d n : Node) (inside : d ∈ n.innerNodes) : d.size < n.size := by
  obtain ⟨c, child, deeper⟩ := (mem_inner d n).mp inside
  exact Nat.lt_of_le_of_lt (size_of_mem_nodes d c deeper) (size_child child)

theorem by_inner {P : Node → Prop} (step : ∀ n : Node, (∀ d ∈ n.innerNodes, P d) → P n) (n : Node) :
    P n :=
  step n fun d inside =>
    have := size_inner d n inside
    by_inner step d
termination_by n.size

end FlowDefs.Node
