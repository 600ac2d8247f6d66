import FlowDefs.Declaration
set_option autoImplicit false

namespace FlowDefs.Text

theorem run_unique (p : Char → Bool) (w v r s : List Char) (left : ∀ c ∈ w, p c = true)
    (right : ∀ c ∈ v, p c = true) (endsLeft : ∀ c ∈ r.head?, p c = false)
    (endsRight : ∀ c ∈ s.head?, p c = false) (same : w ++ r = v ++ s) : w = v ∧ r = s := by
  have run (w r : List Char) (all : ∀ c ∈ w, p c = true) (ends : ∀ c ∈ r.head?, p c = false) :
      (w ++ r).takeWhile p = w := by
    rw [List.takeWhile_append_of_pos all]
    cases r with
    | nil => simp
    | cons c r => simp [ends c rfl]
  have words : w = v := by
    rw [← run w r left endsLeft, ← run v s right endsRight, same]
  exact ⟨words, List.append_cancel_left (words ▸ same)⟩

def comma : List Char := [',', ' ']

-- The items with a mark before each but the first.
def listing {α : Type} (mark : List α) : List (List α) → List α
  | [] => []
  | t :: ts => t ++ ts.flatMap fun u => mark ++ u

theorem flat_map_listing {α β : Type} (f : α → List β) (mark : List α) (items : List (List α)) :
    (listing mark items).flatMap f = listing (mark.flatMap f) (items.map (List.flatMap f)) := by
  cases items with
  | nil => rfl
  | cons t ts =>
      simp only [listing, List.map_cons, List.flatMap_append, List.flatMap_assoc, List.flatMap_map]

theorem listing_nil {α : Type} (items : List (List α)) : listing [] items = items.flatten := by
  cases items with
  | nil => rfl
  | cons t ts => exact congrArg (t ++ ·) List.flatMap_id

theorem join_listing (mark : String) (texts : List String) :
    (join mark texts).toList = listing mark.toList (texts.map String.toList) := by
  induction texts with
  | nil => rfl
  | cons t ts ih =>
      cases ts with
      | nil => simp [join, listing]
      | cons u us =>
          rw [join, String.toList_append, String.toList_append, ih]
          simp [listing]

section Listing

variable {α β : Type} (mark : List Char) (item : α → List Char) (view : α → β)
  (ends : List Char → Prop)

-- Read from a text that goes on as `ends` says, the item and the rest of the text are determined.
def Determined (x y : α) : Prop :=
  ∀ r s : List Char, ends r → ends s → item x ++ r = item y ++ s → view x = view y ∧ r = s

theorem determined_symm (x y : α) (determined : Determined item view ends x y) :
    Determined item view ends y x := fun r s endsLeft endsRight same =>
  (determined s r endsRight endsLeft same.symm).imp Eq.symm Eq.symm

variable (marked : ∀ l : List Char, ends (mark ++ l))

include marked

theorem ends_before_items (xs : List α) (r : List Char) (after : ends r) :
    ends ((xs.flatMap fun x => mark ++ item x) ++ r) := by
  cases xs with
  | nil => exact after
  | cons x xs =>
      rw [List.flatMap_cons, List.append_assoc, List.append_assoc]
      exact marked _

variable (r s : List Char) (endsLeft : ends r ∧ ¬ mark <+: r) (endsRight : ends s ∧ ¬ mark <+: s)

include endsLeft endsRight

theorem marked_items_unique (xs ys : List α)
    (determined : ∀ x ∈ xs, ∀ y ∈ ys, Determined item view ends x y)
    (same : (xs.flatMap fun x => mark ++ item x) ++ r = (ys.flatMap fun y => mark ++ item y) ++ s) :
    xs.map view = ys.map view ∧ r = s := by
  induction xs generalizing ys with
  | nil =>
      cases ys with
      | nil => exact ⟨rfl, same⟩
      | cons y ys =>
          refine absurd ?_ endsLeft.2
          rw [show r = _ from same, List.flatMap_cons, List.append_assoc, List.append_assoc]
          exact List.prefix_append ..
  | cons x xs ih =>
      cases ys with
      | nil =>
          refine absurd ?_ endsRight.2
          rw [show s = _ from same.symm, List.flatMap_cons, List.append_assoc, List.append_assoc]
          exact List.prefix_append ..
      | cons y ys =>
          rw [List.flatMap_cons, List.flatMap_cons, List.append_assoc, List.append_assoc,
            List.append_assoc, List.append_assoc] at same
          obtain ⟨first, later⟩ := determined x List.mem_cons_self y List.mem_cons_self _ _
            (ends_before_items mark item ends marked xs r endsLeft.1)
            (ends_before_items mark item ends marked ys s endsRight.1)
            (List.append_cancel_left same)
          obtain ⟨views, rest⟩ := ih ys (fun a left b right =>
            determined a (List.mem_cons_of_mem x left) b (List.mem_cons_of_mem y right)) later
          exact ⟨by rw [List.map_cons, List.map_cons, first, views], rest⟩

theorem nonempty_listing_unique (x y : α) (xs ys : List α)
    (determined : ∀ a ∈ x :: xs, ∀ b ∈ y :: ys, Determined item view ends a b)
    (same : listing mark ((x :: xs).map item) ++ r = listing mark ((y :: ys).map item) ++ s) :
    (x :: xs).map view = (y :: ys).map view ∧ r = s := by
  simp only [List.map_cons, listing, List.flatMap_map, List.append_assoc] at same
  obtain ⟨first, later⟩ := determined x List.mem_cons_self y List.mem_cons_self _ _
    (ends_before_items mark item ends marked xs r endsLeft.1)
    (ends_before_items mark item ends marked ys s endsRight.1) same
  obtain ⟨views, rest⟩ := marked_items_unique mark item view ends marked r s endsLeft endsRight
    xs ys (fun a left b right =>
      determined a (List.mem_cons_of_mem x left) b (List.mem_cons_of_mem y right)) later
  exact ⟨by rw [List.map_cons, List.map_cons, first, views], rest⟩

-- What follows an empty listing is not the beginning of an item.
theorem listing_unique (xs ys : List α)
    (determined : ∀ x ∈ xs, ∀ y ∈ ys, Determined item view ends x y)
    (startsLeft : ∀ x ∈ xs, ∀ l : List Char, item x ++ l ≠ s)
    (startsRight : ∀ y ∈ ys, ∀ l : List Char, item y ++ l ≠ r)
    (same : listing mark (xs.map item) ++ r = listing mark (ys.map item) ++ s) :
    xs.map view = ys.map view ∧ r = s := by
  cases xs with
  | nil =>
      cases ys with
      | nil => exact ⟨rfl, same⟩
      | cons y ys =>
          simp only [List.map_cons, List.map_nil, listing, List.append_assoc] at same
          exact absurd same.symm (startsRight y List.mem_cons_self _)
  | cons x xs =>
      cases ys with
      | nil =>
          simp only [List.map_cons, List.map_nil, listing, List.append_assoc] at same
          exact absurd same (startsLeft x List.mem_cons_self _)
      | cons y ys =>
          exact nonempty_listing_unique mark item view ends marked r s endsLeft endsRight x y xs ys
            determined same

end Listing

end FlowDefs.Text
