import Mathlib.Data.List.Forall2
import FlowDefs.Proofs.Flow.Layout
set_option autoImplicit false

namespace FlowDefs

open Text

section Marks

variable {τ : Type}

-- The parameter with its argument made a required one.
def Param.required (p : Param τ) : Param τ := { p with optional := false }

def Signature.required (s : Signature τ) : Signature τ :=
  { s with params := s.params.map Param.required, rest := s.rest.map Param.required }

def Param.isMarked (p : Param τ) : Bool := p.name.isSome && p.optional

def Signature.marks (s : Signature τ) : List Bool :=
  s.params.map Param.isMarked ++ s.rest.toList.map Param.isMarked

end Marks

-- Items of the same form, each pair told apart by a view of it.
def Paired {α β : Type} (item : α → List Char) (view : α → β) (x y : α) : Prop :=
  ∀ r s : List Char, item x ++ r = item y ++ s ↔ view x = view y ∧ r = s

theorem paired_marked {α β : Type} (mark : List Char) (item : α → List Char) (view : α → β)
    (xs ys : List α) (paired : List.Forall₂ (Paired item view) xs ys) (r s : List Char) :
    (xs.flatMap fun x => mark ++ item x) ++ r = (ys.flatMap fun y => mark ++ item y) ++ s ↔
      xs.map view = ys.map view ∧ r = s := by
  induction paired with
  | nil => simp
  | cons first _ ih =>
      rw [List.flatMap_cons, List.flatMap_cons, List.append_assoc, List.append_assoc,
        List.append_assoc, List.append_assoc, List.append_cancel_left_eq, first, ih]
      simp [and_assoc]

theorem paired_listing {α β : Type} (mark : List Char) (item : α → List Char) (view : α → β)
    (xs ys : List α) (paired : List.Forall₂ (Paired item view) xs ys) (r s : List Char) :
    listing mark (xs.map item) ++ r = listing mark (ys.map item) ++ s ↔
      xs.map view = ys.map view ∧ r = s := by
  cases paired with
  | nil => simp [listing]
  | cons first rest =>
      simp only [List.map_cons, listing, List.flatMap_map, List.append_assoc]
      rw [first, paired_marked mark item view _ _ rest]
      simp [and_assoc]

namespace FlowType

theorem param_paired (p q : Param FlowType) (alike : p.required = q.required) :
    Paired paramChars Param.isMarked p q := by
  obtain ⟨name, type, optional⟩ := p
  obtain ⟨name', type', optional'⟩ := q
  cases alike
  intro r s
  cases name with
  | none => simp [paramChars, Param.isMarked]
  | some name =>
      cases optional <;> cases optional' <;> simp [paramChars, markChars, Param.isMarked]

def isMarkedItem : Param FlowType ⊕ Param FlowType → Bool := Sum.elim Param.isMarked Param.isMarked

theorem item_marks (s : Signature FlowType) : s.items.map isMarkedItem = s.marks := by
  rw [Signature.items, List.map_append, List.map_map, List.map_map]
  rfl

theorem alike_pairs (xs ys : List (Param FlowType))
    (alike : xs.map Param.required = ys.map Param.required) :
    List.Forall₂ (fun p q => p.required = q.required) xs ys := by
  rw [← List.forall₂_eq_eq_eq, List.forall₂_map_left_iff, List.forall₂_map_right_iff] at alike
  exact alike

theorem items_paired (s t : Signature FlowType) (alike : s.required = t.required) :
    List.Forall₂ (Paired itemChars isMarkedItem) s.items t.items := by
  have params := alike_pairs s.params t.params (congrArg Signature.params alike)
  have rest : s.rest.toList.map Param.required = t.rest.toList.map Param.required := by
    rw [← Option.toList_map, ← Option.toList_map]
    exact congrArg (fun u => u.rest.toList) alike
  apply List.rel_append
  · rw [List.forall₂_map_left_iff, List.forall₂_map_right_iff]
    exact params.imp fun p q same => param_paired p q same
  · rw [List.forall₂_map_left_iff, List.forall₂_map_right_iff]
    refine (alike_pairs _ _ rest).imp fun p q same r s => ?_
    simp only [itemChars, List.cons_append, List.cons.injEq, true_and]
    exact param_paired p q same r s

theorem signature_told_by_marks (arrow : String) (s t : Signature FlowType)
    (alike : s.required = t.required) :
    printSignature arrow s = printSignature arrow t ↔ s.marks = t.marks := by
  have typeParams : s.typeParams = t.typeParams :=
    show s.required.typeParams = t.required.typeParams by rw [alike]
  have result : s.result = t.result := show s.required.result = t.required.result by rw [alike]
  rw [← String.toList_inj, signature_chars_eq, signature_chars_eq, typeParams, result,
    List.append_cancel_left_eq, List.cons.injEq,
    paired_listing comma itemChars isMarkedItem _ _ (items_paired s t alike), item_marks,
    item_marks]
  simp

end FlowType

theorem function_told_by_marks (id : String) (position : ExportPosition) (s t : Signature FlowType)
    (alike : s.required = t.required) :
    (Declaration.function id s).print position = (Declaration.function id t).print position ↔
      s.marks = t.marks := by
  obtain ⟨keyword, spelled⟩ : ∃ keyword : String, ∀ u : Signature FlowType,
      (Declaration.function id u).print position =
        keyword ++ id ++ FlowType.printSignature ": " u ++ ";" := by
    cases position <;> exact ⟨_, fun _ => rfl⟩
  rw [spelled, spelled, String.append_left_inj, String.append_right_inj]
  exact FlowType.signature_told_by_marks ": " s t alike

theorem marks_differ_iff (p q : Param FlowType) (alike : p.required = q.required) :
    p.isMarked = q.isMarked ↔ (p.optional ≠ q.optional → p.name = none) := by
  obtain ⟨name, type, optional⟩ := p
  obtain ⟨name', type', optional'⟩ := q
  cases alike
  cases name <;> simp [Param.isMarked]

-- Where only positional parameters differ, the marks differ at a parameter with a name.
theorem marks_agree_iff (s t : Signature FlowType) (alike : s.required = t.required)
    (rest : s.rest = t.rest) : s.marks = t.marks ↔ ∀ p q : Param FlowType,
      (p, q) ∈ s.params.zip t.params → p.optional ≠ q.optional → p.name = none := by
  have listed (ps qs : List (Param FlowType))
      (pairs : List.Forall₂ (fun p q => p.required = q.required) ps qs) :
      ps.map Param.isMarked = qs.map Param.isMarked ↔ ∀ p q : Param FlowType,
        (p, q) ∈ ps.zip qs → p.optional ≠ q.optional → p.name = none := by
    induction pairs with
    | nil => simp
    | cons first _ ih =>
        rw [List.map_cons, List.map_cons, List.cons.injEq, marks_differ_iff _ _ first, ih,
          List.zip_cons_cons]
        simp [or_imp, forall_and]
  rw [Signature.marks, Signature.marks, rest, List.append_cancel_right_eq]
  exact listed _ _ (FlowType.alike_pairs _ _ (congrArg Signature.params alike))

end FlowDefs
