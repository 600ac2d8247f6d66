import Mathlib.Data.List.Forall2
import FlowDefs.Fault
set_option autoImplicit false

namespace FlowDefs

theorem erase_dups_nodup {α : Type} [BEq α] [LawfulBEq α] (xs : List α) : xs.eraseDups.Nodup := by
  match xs with
  | [] => exact List.nodup_nil
  | x :: xs =>
      have shorter : (xs.filter fun y => !y == x).length < (x :: xs).length :=
        Nat.lt_succ_of_le (List.length_filter_le _ xs)
      rw [List.eraseDups_cons, List.nodup_cons]
      exact ⟨by simp, erase_dups_nodup _⟩
termination_by xs.length
decreasing_by exact shorter

theorem erase_dups_id {α : Type} [BEq α] [LawfulBEq α] (xs : List α) (distinct : xs.Nodup) :
    xs.eraseDups = xs := by
  induction xs with
  | nil => rfl
  | cons x xs ih =>
      have absent : x ∉ xs := (List.nodup_cons.mp distinct).1
      have kept : (xs.filter fun y => !y == x) = xs := by
        rw [List.filter_eq_self]
        intro y member
        have different : y ≠ x := fun same => absent (same ▸ member)
        simpa using different
      rw [List.eraseDups_cons, kept, ih (List.nodup_cons.mp distinct).2]

theorem erase_dups_filter {α : Type} [BEq α] [LawfulBEq α] (p : α → Bool) (xs : List α) :
    (xs.filter p).eraseDups = xs.eraseDups.filter p := by
  match xs with
  | [] => rfl
  | x :: xs =>
      have shorter : (xs.filter fun y => !y == x).length < (x :: xs).length :=
        Nat.lt_succ_of_le (List.length_filter_le _ xs)
      have rest := erase_dups_filter p (xs.filter fun y => !y == x)
      rw [List.eraseDups_cons, List.filter_cons, List.filter_cons]
      by_cases keep : p x = true
      · rw [if_pos keep, if_pos keep, List.eraseDups_cons, ← rest]
        simp only [List.filter_filter, Bool.and_comm]
      · rw [if_neg keep, if_neg keep, ← rest, List.filter_filter]
        congr 1
        apply List.filter_congr
        intro y _
        by_cases same : y = x
        · simp [same, keep]
        · simp [same]
termination_by xs.length
decreasing_by exact shorter

theorem erase_dups_concat {α : Type} [BEq α] [LawfulBEq α] (xs : List α) (x : α) :
    (xs ++ [x]).eraseDups = if xs.contains x then xs.eraseDups else xs.eraseDups ++ [x] := by
  rw [List.eraseDups_append, List.removeAll]
  by_cases old : xs.contains x = true
  · rw [if_pos old]
    simp [List.contains_iff_mem.mp old]
  · rw [if_neg old]
    have new : x ∉ xs := fun member => old (List.contains_iff_mem.mpr member)
    simp [new, List.eraseDups_cons]

-- The order of a list is of no account to a search that only one item can answer.
theorem find_of_members {α : Type} (p : α → Bool) (xs ys : List α) (same : ∀ x, x ∈ xs ↔ x ∈ ys)
    (unique : ∀ x ∈ xs, ∀ y ∈ xs, p x = true → p y = true → x = y) : xs.find? p = ys.find? p := by
  cases left : xs.find? p with
  | none =>
      have none : ∀ y ∈ ys, ¬ p y = true := fun y member =>
        List.find?_eq_none.mp left y ((same y).mpr member)
      exact (List.find?_eq_none.mpr none).symm
  | some x =>
      have here : x ∈ xs := List.mem_of_find?_eq_some left
      have found : p x = true := List.find?_some left
      cases right : ys.find? p with
      | none => exact absurd found (List.find?_eq_none.mp right x ((same x).mp here))
      | some y =>
          have there : y ∈ xs := (same y).mpr (List.mem_of_find?_eq_some right)
          rw [unique x here y there found (List.find?_some right)]

theorem find_some_of_members {α β : Type} (f : α → Option β) (xs ys : List α)
    (same : ∀ x, x ∈ xs ↔ x ∈ ys)
    (unique : ∀ x ∈ xs, ∀ y ∈ xs, ∀ a b, f x = some a → f y = some b → a = b) :
    xs.findSome? f = ys.findSome? f := by
  cases left : xs.findSome? f with
  | none =>
      have none : ∀ y ∈ ys, f y = none := fun y member =>
        List.findSome?_eq_none_iff.mp left y ((same y).mpr member)
      exact (List.findSome?_eq_none_iff.mpr none).symm
  | some a =>
      obtain ⟨x, here, answer⟩ := List.exists_of_findSome?_eq_some left
      cases right : ys.findSome? f with
      | none =>
          rw [List.findSome?_eq_none_iff.mp right x ((same x).mp here)] at answer
          cases answer
      | some b =>
          obtain ⟨y, there, other⟩ := List.exists_of_findSome?_eq_some right
          rw [unique x here y ((same y).mpr there) a b answer other]

theorem mem_of_lookup {κ α : Type} [BEq κ] [LawfulBEq κ] (entries : List (κ × α)) (name : κ)
    (value : α) (found : entries.lookup name = some value) : (name, value) ∈ entries := by
  induction entries with
  | nil => cases found
  | cons entry entries ih =>
      rw [List.lookup_cons] at found
      by_cases same : name == entry.1
      · simp only [same, Option.some.injEq] at found
        rw [beq_iff_eq] at same
        simp [same, ← found]
      · simp only [same] at found
        exact List.mem_cons_of_mem entry (ih found)

theorem lookup_default {α : Type} (entries : List (String × α)) (key : String) (value other : α)
    (found : (entries.lookup key).getD other = value) (different : other ≠ value) :
    (key, value) ∈ entries := by
  cases lookup : entries.lookup key with
  | none =>
      rw [lookup] at found
      exact absurd found different
  | some listed =>
      rw [lookup] at found
      cases found
      exact mem_of_lookup entries key _ lookup

theorem mem_of_until_fault {ε α : Type} (xs : List (Except ε α)) (x : α)
    (read : x ∈ (untilFault xs).1) : .ok x ∈ xs := by
  induction xs with
  | nil => cases read
  | cons first xs ih =>
      cases first with
      | error fault => cases read
      | ok y =>
          rcases List.mem_cons.mp read with rfl | later
          · exact List.mem_cons_self
          · exact List.mem_cons_of_mem _ (ih later)

theorem until_fault_none {ε α β : Type} (f : α → Except ε β) (xs : List α) (ys : List β) :
    untilFault (xs.map f) = (ys, none) ↔ List.Forall₂ (fun x y => f x = .ok y) xs ys := by
  induction xs generalizing ys with
  | nil => cases ys <;> simp [untilFault]
  | cons x xs ih =>
      rw [List.map_cons]
      cases first : f x with
      | error fault => cases ys <;> simp [untilFault, first]
      | ok y =>
          cases ys with
          | nil => simp [untilFault]
          | cons z ys =>
              rw [List.forall₂_cons, ← ih ys, first]
              simp [untilFault, Prod.ext_iff, and_assoc]

theorem until_fault_error {ε α β : Type} (f : α → Except ε β) (xs : List α) (ys : List β)
    (fault : ε) : untilFault (xs.map f) = (ys, some fault) ↔ ∃ before x after,
      xs = before ++ x :: after ∧ List.Forall₂ (fun x y => f x = .ok y) before ys ∧
        f x = .error fault := by
  induction xs generalizing ys with
  | nil => simp [untilFault]
  | cons first xs ih =>
      rw [List.map_cons]
      constructor
      · intro run
        cases read : f first with
        | error found =>
            rw [read] at run
            cases run
            exact ⟨[], first, xs, rfl, .nil, read⟩
        | ok y =>
            rw [read, untilFault, Prod.mk.injEq] at run
            obtain ⟨rfl, found⟩ := run
            obtain ⟨before, x, after, rfl, all, faulty⟩ := (ih _).mp (Prod.ext rfl found)
            exact ⟨first :: before, x, after, rfl, .cons read all, faulty⟩
      · rintro ⟨before, x, after, split, all, faulty⟩
        cases all with
        | nil =>
            cases split
            rw [faulty]
            rfl
        | cons read all =>
            cases split
            have rest := (ih _).mpr ⟨_, x, after, rfl, all, faulty⟩
            rw [read, untilFault, rest]

theorem map_determined {α β γ : Type} (f : α → β) (g : α → γ)
    (determined : ∀ x y, f x = f y → g x = g y) (xs ys : List α) (same : xs.map f = ys.map f) :
    xs.map g = ys.map g := by
  induction xs generalizing ys with
  | nil =>
      rw [List.map_eq_nil_iff.mp same.symm]
  | cons x xs ih =>
      obtain ⟨y, rest, rfl, first, later⟩ := List.map_eq_cons_iff.mp same.symm
      rw [List.map_cons, List.map_cons, determined x y first.symm, ih rest later.symm]

end FlowDefs
