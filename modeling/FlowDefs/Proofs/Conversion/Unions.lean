import FlowDefs.Proofs.Conversion.Refinement
import FlowDefs.Proofs.TypeScript.Common
set_option autoImplicit false

namespace FlowDefs

namespace Node

-- The node at a place below: at each union on the way, the number of the part to go on with.
def through? (n : Node) : List Nat → Option Node
  | [] => some n
  | i :: place =>
    if n.kind = "union_type" then n.parts[i]?.bind fun c => c.through? place else none

def numbered (i : Nat) : List (List (List Nat × Node)) → List (List Nat × Node)
  | [] => []
  | members :: rest => (members.map fun m => (i :: m.1, m.2)) ++ numbered (i + 1) rest

-- The members that the node stands for in a union, each with its place.
def placedMembers (n : Node) : List (List Nat × Node) :=
  if n.kind = "union_type" then
    numbered 0 (n.parts.attach.map fun ⟨c, h⟩ =>
      have := size_part h
      placedMembers c)
  else [([], n)]
termination_by n.size

theorem placed_members_eq (n : Node) : n.placedMembers =
    if n.kind = "union_type" then numbered 0 (n.parts.map placedMembers) else [([], n)] := by
  rw [placedMembers]
  simp

theorem mem_numbered (i : Nat) (lists : List (List (List Nat × Node))) (place : List Nat)
    (d : Node) : (place, d) ∈ numbered i lists ↔
      ∃ j members inner, lists[j]? = some members ∧ place = (i + j) :: inner ∧
        (inner, d) ∈ members := by
  induction lists generalizing i with
  | nil => simp [numbered]
  | cons members lists ih =>
      rw [numbered, List.mem_append, ih]
      constructor
      · rintro (first | ⟨j, later, inner, found, rfl, member⟩)
        · obtain ⟨⟨inner, d⟩, member, same⟩ := List.mem_map.mp first
          cases same
          exact ⟨0, members, inner, rfl, rfl, member⟩
        · exact ⟨j + 1, later, inner, found, by rw [Nat.add_assoc, Nat.add_comm 1], member⟩
      · rintro ⟨j, found, inner, listed, rfl, member⟩
        cases j with
        | zero =>
            cases listed
            exact .inl (List.mem_map.mpr ⟨(inner, d), member, rfl⟩)
        | succ j => exact .inr ⟨j, found, inner, listed, by rw [Nat.add_assoc, Nat.add_comm 1], member⟩

theorem numbered_ordered (i : Nat) (lists : List (List (List Nat × Node)))
    (ordered : ∀ members ∈ lists, members.Pairwise fun m n => m.1 < n.1) :
    (numbered i lists).Pairwise fun m n => m.1 < n.1 := by
  induction lists generalizing i with
  | nil => exact .nil
  | cons members lists ih =>
      rw [numbered, List.pairwise_append]
      refine ⟨?_, ih (i + 1) fun later member => ordered later (List.mem_cons_of_mem _ member), ?_⟩
      · rw [List.pairwise_map]
        exact (ordered members List.mem_cons_self).imp fun less =>
          List.cons_lt_cons_iff.mpr (.inr ⟨rfl, less⟩)
      · rintro m first ⟨place, d⟩ later
        obtain ⟨inner, -, rfl⟩ := List.mem_map.mp first
        obtain ⟨j, -, rest, -, rfl, -⟩ := (mem_numbered _ _ _ _).mp later
        exact List.cons_lt_cons_iff.mpr (.inl (by omega))

theorem placed_ordered (n : Node) : n.placedMembers.Pairwise fun m n => m.1 < n.1 := by
  induction n using by_inner with
  | step n ih =>
      rw [placed_members_eq]
      by_cases union : n.kind = "union_type"
      · rw [if_pos union]
        apply numbered_ordered
        intro members listed
        obtain ⟨c, part, rfl⟩ := List.mem_map.mp listed
        exact ih c (part_inner c n part)
      · rw [if_neg union]
        exact List.pairwise_singleton _ _

theorem mem_placed_iff (n : Node) (place : List Nat) (d : Node) :
    (place, d) ∈ n.placedMembers ↔ n.through? place = some d ∧ d.kind ≠ "union_type" := by
  induction place generalizing n with
  | nil =>
      rw [placed_members_eq, through?, Option.some.injEq]
      by_cases union : n.kind = "union_type"
      · rw [if_pos union, mem_numbered]
        constructor
        · rintro ⟨j, members, inner, -, impossible, -⟩
          cases impossible
        · rintro ⟨rfl, other⟩
          exact absurd union other
      · rw [if_neg union, List.mem_singleton, Prod.mk.injEq]
        constructor
        · rintro ⟨-, rfl⟩
          exact ⟨rfl, union⟩
        · rintro ⟨rfl, -⟩
          exact ⟨rfl, rfl⟩
  | cons i place ih =>
      rw [placed_members_eq, through?]
      by_cases union : n.kind = "union_type"
      · rw [if_pos union, if_pos union, mem_numbered]
        constructor
        · rintro ⟨j, members, inner, listed, same, member⟩
          obtain ⟨rfl, rfl⟩ := List.cons.inj same
          rw [List.getElem?_map] at listed
          obtain ⟨c, found, rfl⟩ := Option.map_eq_some_iff.mp listed
          rw [Nat.zero_add, found]
          exact (ih c).mp member
        · rintro ⟨reached, other⟩
          obtain ⟨c, found, inner⟩ := Option.bind_eq_some_iff.mp reached
          refine ⟨i, c.placedMembers, place, ?_, by rw [Nat.zero_add], (ih c).mpr ⟨inner, other⟩⟩
          rw [List.getElem?_map, found, Option.map_some]
      · rw [if_neg union, if_neg union]
        simp

def writtenMembers (n : Node) : List Node := n.placedMembers.map Prod.snd

theorem numbered_nodes (i : Nat) (lists : List (List (List Nat × Node))) :
    (numbered i lists).map Prod.snd = lists.flatMap fun members => members.map Prod.snd := by
  induction lists generalizing i with
  | nil => rfl
  | cons members lists ih =>
      rw [numbered, List.map_append, ih, List.flatMap_cons, List.map_map]
      rfl

theorem written_members_eq (n : Node) : n.writtenMembers =
    if n.kind = "union_type" then n.parts.flatMap writtenMembers else [n] := by
  rw [writtenMembers, placed_members_eq]
  by_cases union : n.kind = "union_type"
  · rw [if_pos union, if_pos union, numbered_nodes, List.flatMap_map]
    rfl
  · rw [if_neg union, if_neg union]
    rfl

theorem member_types_read (n : Node) :
    n.memberTypes = n.writtenMembers.map TypeExpr.ofNode := by
  induction n using by_inner with
  | step n ih =>
      rw [memberTypes, written_members_eq]
      by_cases union : n.kind = "union_type"
      · rw [if_pos union, if_pos union, TypeExpr.union_members_eq, List.map_flatMap]
        rw [List.flatMap_def, List.flatMap_def]
        exact congrArg List.flatten
          (List.map_congr_left fun c part => ih c (part_inner c n part))
      · rw [if_neg union, if_neg union]
        rfl

end Node

theorem union_by_members (n : Node) (union : n.kind = "union_type") :
    (n.placedMembers.Pairwise fun first second => first.1 < second.1) ∧
      (∀ place d, (place, d) ∈ n.placedMembers ↔
        n.through? place = some d ∧ d.kind ≠ "union_type") ∧
      (∀ (catalog : Catalog) (session : Session),
        let members := session.convertTypes catalog (n.writtenMembers.map TypeExpr.ofNode)
        session.convertType catalog (.ofNode n) = (.union members.1, members.2)) ∧
      ∀ (catalog : Catalog) (session : Session) (other : Node), other.kind = "union_type" →
        let converted := fun d => (TypeExpr.ofNode d).toFlow (catalog.resolve session.bindings)
        n.writtenMembers.map converted = other.writtenMembers.map converted →
          session.convertType catalog (.ofNode n) = session.convertType catalog (.ofNode other) := by
  have read (m : Node) (kind : m.kind = "union_type") :
      TypeExpr.ofNode m = .union (m.writtenMembers.map TypeExpr.ofNode) := by
    have form := m.construct_of_kind "union_type" .unionType kind (by decide) (by decide)
    rw [TypeExpr.of_node_eq, form, ← Node.member_types_read, Node.memberTypes, if_pos kind]
    rfl
  refine ⟨n.placed_ordered, n.mem_placed_iff, ?_, ?_⟩
  · intro catalog session
    rw [read n union, Session.convert_type_union]
  · intro catalog session other kind converted same
    rw [read n union, read other kind, Session.convert_type_union, Session.convert_type_union,
      session.convert_types_alike catalog _ (other.writtenMembers.map TypeExpr.ofNode)]
    rw [List.map_map, List.map_map]
    exact same

-- The type `string | number | any`, with the bars nested to the left and to the right.
namespace NestedUnion

def word (span : Span) (text : String) : Node :=
  ⟨"predefined_type", [], true, span, text, "union_type", []⟩

def bar (span : Span) : Node := ⟨"|", [], false, span, "|", "union_type", []⟩

def either (span : Span) (text : String) (left : Node) (mark : Span) (right : Node) : Node :=
  ⟨"union_type", [], true, span, text, "union_type", [left, bar mark, right]⟩

def string : Node := word ⟨0, 6⟩ "string"

def number : Node := word ⟨9, 15⟩ "number"

def any : Node := word ⟨18, 21⟩ "any"

def front : Node := either ⟨0, 15⟩ "string | number" string ⟨7, 8⟩ number

def back : Node := either ⟨9, 21⟩ "number | any" number ⟨16, 17⟩ any

def toLeft : Node := either ⟨0, 21⟩ "string | number | any" front ⟨16, 17⟩ any

def toRight : Node := either ⟨0, 21⟩ "string | number | any" string ⟨7, 8⟩ back

theorem either_members (span mark : Span) (text : String) (left right : Node)
    (leftPart : left.IsPart) (rightPart : right.IsPart) :
    (either span text left mark right).writtenMembers =
      left.writtenMembers ++ right.writtenMembers := by
  have parts := Node.parts_around (either span text left mark right) left (bar mark) right
    "|" rfl ⟨rfl, rfl, rfl, rfl⟩ leftPart rightPart
  rw [Node.written_members_eq, parts]
  simp [either]

theorem members_alike : toLeft.writtenMembers = toRight.writtenMembers := by
  have first : string.IsPart := ⟨rfl, by decide⟩
  have second : number.IsPart := ⟨rfl, by decide⟩
  have third : any.IsPart := ⟨rfl, by decide⟩
  rw [toLeft, toRight, either_members _ _ _ front any ⟨rfl, by decide⟩ third,
    either_members _ _ _ string back first ⟨rfl, by decide⟩, front, back,
    either_members _ _ _ string number first second, either_members _ _ _ number any second third,
    List.append_assoc]

end NestedUnion

theorem nesting_without_influence :
    NestedUnion.toLeft.kind = "union_type" ∧ NestedUnion.toRight.kind = "union_type" ∧
      NestedUnion.toLeft.writtenMembers = NestedUnion.toRight.writtenMembers ∧
      Session.start.convertType .empty (.ofNode NestedUnion.toLeft) =
        Session.start.convertType .empty (.ofNode NestedUnion.toRight) := by
  obtain ⟨-, -, -, nesting⟩ := union_by_members NestedUnion.toLeft rfl
  refine ⟨rfl, rfl, NestedUnion.members_alike, ?_⟩
  exact nesting .empty .start NestedUnion.toRight rfl (by rw [NestedUnion.members_alike])

end FlowDefs
