import FlowDefs.Proofs.Syntax.Subtree
import FlowDefs.Proofs.Text.Listing
import FlowDefs.Proofs.Text.Slices
set_option autoImplicit false

namespace FlowDefs

open Text

inductive Slot where
  | node (n : Node)
  | blank (text : String)

namespace Slot

def chars : Slot → List Char
  | .node n => n.text.toList
  | .blank text => text.toList

def node? : Slot → Option Node
  | .node n => some n
  | .blank _ => none

end Slot

def Node.Cut (source : List Char) (n : Node) : Prop :=
  slice? source n.span.start n.span.stop = some n.text

instance (source : List Char) (n : Node) : Decidable (n.Cut source) :=
  inferInstanceAs (Decidable (_ = _))

inductive Laid (source : List Char) : Nat → List Slot → Nat → Prop where
  | done (a : Nat) : Laid source a [] a
  | node (n : Node) (slots : List Slot) (b : Nat) (cut : n.Cut source)
      (later : Laid source n.span.stop slots b) : Laid source n.span.start (.node n :: slots) b
  | blank (text : String) (slots : List Slot) (a m b : Nat) (cut : slice? source a m = some text)
      (later : Laid source m slots b) : Laid source a (.blank text :: slots) b

theorem laid_slice (source : List Char) (slots : List Slot) (a b : Nat)
    (laid : Laid source a slots b) (inside : slice? source a a = some "") :
    slice? source a b = some (String.ofList (slots.flatMap Slot.chars)) := by
  have step (s : String) (slots : List Slot) (a m b : Nat) (cut : slice? source a m = some s)
      (ih : slice? source m m = some "" →
        slice? source m b = some (String.ofList (slots.flatMap Slot.chars))) :
      slice? source a b = some (String.ofList (s.toList ++ slots.flatMap Slot.chars)) := by
    rw [String.ofList_append, String.ofList_toList]
    exact slice_append source a m b s _ cut (ih (slice_stop source a m s cut))
  induction laid with
  | done a => exact inside
  | node n slots b cut later ih => exact step n.text slots _ _ _ cut ih
  | blank text slots a m b cut later ih => exact step text slots a m b cut ih

namespace Node

structure Written (source : List Char) (n : Node) (kind : String) (slots : List Slot) : Prop where
  kind : n.kind = kind
  named : n.named = true
  cut : n.Cut source
  children : n.children = slots.filterMap Slot.node?
  laid : Laid source n.span.start slots n.span.stop

theorem written_text (source : List Char) (n : Node) (kind : String) (slots : List Slot)
    (written : n.Written source kind slots) : n.text.toList = slots.flatMap Slot.chars := by
  have cut := laid_slice source slots _ _ written.laid (slice_start _ _ _ _ written.cut)
  rw [show slice? source _ _ = _ from written.cut, Option.some.injEq] at cut
  rw [cut, String.toList_ofList]

-- Keywords and punctuation.
structure IsToken (n : Node) (spelling : String) : Prop where
  named : n.named = false
  kind : n.kind = spelling
  text : n.text = spelling
  fields : n.fields = []

def IsPart (n : Node) : Prop := n.named = true ∧ n.kind ≠ "comment"

-- Commas between the nodes, each with a blank behind it.
inductive Separated : List Node → List Slot → Prop where
  | nothing : Separated [] []
  | one (n : Node) : Separated [n] [.node n]
  | more (n comma m : Node) (ms : List Node) (slots : List Slot) (token : comma.IsToken ",")
      (later : Separated (m :: ms) slots) :
      Separated (n :: m :: ms) (.node n :: .node comma :: .blank " " :: slots)

def Bracketed (source : List Char) (n : Node) (kind left right : String) (items : List Node) :
    Prop :=
  ∃ opening slots closing, n.Written source kind (.node opening :: (slots ++ [.node closing])) ∧
    opening.IsToken left ∧ Separated items slots ∧ closing.IsToken right

-- What parts and field lookups see of a list of children.

theorem part_kept (n : Node) (cs : List Node) (part : n.IsPart) :
    (n :: cs).filter (fun c => c.named && !c.isComment) =
      n :: cs.filter (fun c => c.named && !c.isComment) := by
  refine List.filter_cons_of_pos ?_
  simp [part.1, isComment, part.2]

theorem token_dropped (n : Node) (spelling : String) (cs : List Node) (token : n.IsToken spelling) :
    (n :: cs).filter (fun c => c.named && !c.isComment) =
      cs.filter (fun c => c.named && !c.isComment) := by
  refine List.filter_cons_of_neg ?_
  simp [token.named]

theorem only_part (n part : Node) (children : n.children = [part]) (isPart : part.IsPart) :
    n.firstPart? = some part := by
  rw [firstPart?, parts, children, part_kept part _ isPart]
  rfl

theorem part_behind (n mark part : Node) (spelling : String) (children : n.children = [mark, part])
    (token : mark.IsToken spelling) (isPart : part.IsPart) : n.firstPart? = some part := by
  rw [firstPart?, parts, children, token_dropped mark spelling _ token, part_kept part _ isPart]
  rfl

theorem parts_around (n left mark right : Node) (spelling : String)
    (children : n.children = [left, mark, right]) (token : mark.IsToken spelling)
    (leftPart : left.IsPart) (rightPart : right.IsPart) : n.parts = [left, right] := by
  rw [parts, children, part_kept left _ leftPart, token_dropped mark spelling _ token,
    part_kept right _ rightPart]
  rfl

theorem separated_chars (items : List Node) (slots : List Slot)
    (separated : Separated items slots) :
    slots.flatMap Slot.chars = listing comma (items.map fun n => n.text.toList) := by
  induction separated with
  | nothing => rfl
  | one n => simp [Slot.chars, listing]
  | more n comma m ms slots token later ih =>
      simp only [List.flatMap_cons, Slot.chars, token.text, ih]
      rfl

theorem separated_parts (items : List Node) (slots : List Slot) (separated : Separated items slots)
    (parts : ∀ n ∈ items, n.IsPart) :
    (slots.filterMap Slot.node?).filter (fun c => c.named && !c.isComment) = items := by
  induction separated with
  | nothing => rfl
  | one n => exact part_kept n [] (parts n List.mem_cons_self)
  | more n comma m ms slots token later ih =>
      simp only [List.filterMap_cons, Slot.node?]
      rw [part_kept n _ (parts n List.mem_cons_self), token_dropped comma "," _ token,
        ih fun d member => parts d (List.mem_cons_of_mem n member)]

theorem bracketed_text (source : List Char) (n : Node) (kind left right : String)
    (items : List Node) (bracketed : n.Bracketed source kind left right items) :
    n.text.toList =
      left.toList ++ (listing comma (items.map fun n => n.text.toList) ++ right.toList) := by
  obtain ⟨opening, slots, closing, written, opens, separated, closes⟩ := bracketed
  rw [written_text source n kind _ written]
  simp [Slot.chars, opens.text, closes.text, separated_chars items slots separated]

theorem bracketed_parts (source : List Char) (n : Node) (kind left right : String)
    (items : List Node) (bracketed : n.Bracketed source kind left right items)
    (plain : ∀ n ∈ items, n.IsPart) : n.parts = items := by
  obtain ⟨opening, slots, closing, written, opens, separated, closes⟩ := bracketed
  rw [parts, written.children, List.filterMap_cons, List.filterMap_append]
  simp only [Slot.node?, List.filterMap_cons, List.filterMap_nil]
  rw [token_dropped opening left _ opens, List.filter_append,
    separated_parts items slots separated plain, token_dropped closing right _ closes]
  simp

end Node

end FlowDefs
