import FlowDefs.Syntax.Outline
import Mathlib.Algebra.GroupWithZero.Nat
set_option autoImplicit false

namespace FlowDefs.Text

def bytes (cs : List Char) : Nat := (cs.map Char.utf8Size).sum

theorem bytes_cons (c : Char) (cs : List Char) : bytes (c :: cs) = c.utf8Size + bytes cs := by
  simp [bytes]

theorem bytes_append (cs ds : List Char) : bytes (cs ++ ds) = bytes cs + bytes ds := by
  simp [bytes]

theorem drop_bytes_cons (c : Char) (cs : List Char) (n : Nat) :
    dropBytes (c.utf8Size + n) (c :: cs) = dropBytes n cs := by
  obtain ⟨m, size⟩ : ∃ m, c.utf8Size + n = m + 1 :=
    ⟨c.utf8Size + n - 1, by have := c.utf8Size_pos; omega⟩
  rw [size, dropBytes, if_pos (by omega), ← size, Nat.add_sub_cancel_left]

theorem take_bytes_cons (c : Char) (cs : List Char) (n : Nat) :
    takeBytes (c.utf8Size + n) (c :: cs) = (takeBytes n cs).map (c :: ·) := by
  obtain ⟨m, size⟩ : ∃ m, c.utf8Size + n = m + 1 :=
    ⟨c.utf8Size + n - 1, by have := c.utf8Size_pos; omega⟩
  rw [size, takeBytes, if_pos (by omega), ← size, Nat.add_sub_cancel_left]

theorem drop_bytes_append (before rest : List Char) :
    dropBytes (bytes before) (before ++ rest) = some rest := by
  induction before with
  | nil => simp [bytes, dropBytes]
  | cons c before ih => rw [bytes_cons, List.cons_append, drop_bytes_cons, ih]

theorem take_bytes_append (part after : List Char) :
    takeBytes (bytes part) (part ++ after) = some part := by
  induction part with
  | nil => simp [bytes, takeBytes]
  | cons c part ih => rw [bytes_cons, List.cons_append, take_bytes_cons, ih, Option.map_some]

theorem drop_bytes_split (n : Nat) (cs rest : List Char) (dropped : dropBytes n cs = some rest) :
    ∃ before, cs = before ++ rest ∧ bytes before = n := by
  induction cs generalizing n with
  | nil =>
      cases n with
      | zero => exact ⟨[], by simpa [dropBytes] using dropped, rfl⟩
      | succ n => cases dropped
  | cons c cs ih =>
      cases n with
      | zero => exact ⟨[], by simpa [dropBytes] using dropped, rfl⟩
      | succ n =>
          rw [dropBytes] at dropped
          split at dropped
          · next fits =>
              obtain ⟨before, rfl, size⟩ := ih _ dropped
              exact ⟨c :: before, rfl, by rw [bytes_cons, size]; omega⟩
          · cases dropped

theorem take_bytes_split (n : Nat) (cs part : List Char) (taken : takeBytes n cs = some part) :
    ∃ after, cs = part ++ after ∧ bytes part = n := by
  induction cs generalizing n part with
  | nil =>
      cases n with
      | zero => exact ⟨[], by simpa [takeBytes] using taken, by simp_all [takeBytes, bytes]⟩
      | succ n => cases taken
  | cons c cs ih =>
      cases n with
      | zero =>
          rw [takeBytes, Option.some.injEq] at taken
          exact ⟨c :: cs, by rw [← taken]; rfl, by rw [← taken]; rfl⟩
      | succ n =>
          rw [takeBytes] at taken
          split at taken
          · next fits =>
              obtain ⟨later, inner, rfl⟩ := Option.map_eq_some_iff.mp taken
              obtain ⟨after, rfl, size⟩ := ih _ _ inner
              exact ⟨after, rfl, by rw [bytes_cons, size]; omega⟩
          · cases taken

theorem slice_iff (text : List Char) (start stop : Nat) (s : String) :
    slice? text start stop = some s ↔ ∃ before after, text = before ++ (s.toList ++ after) ∧
      bytes before = start ∧ start + bytes s.toList = stop := by
  unfold slice?
  constructor
  · intro cut
    split at cut
    · next ordered =>
        obtain ⟨rest, dropped, cut⟩ := Option.bind_eq_some_iff.mp cut
        obtain ⟨part, taken, same⟩ := Option.bind_eq_some_iff.mp cut
        cases same
        obtain ⟨before, rfl, size⟩ := drop_bytes_split _ _ _ dropped
        obtain ⟨after, rfl, size'⟩ := take_bytes_split _ _ _ taken
        refine ⟨before, after, by simp, size, ?_⟩
        rw [String.toList_ofList, size']
        omega
    · cases cut
  · rintro ⟨before, after, rfl, rfl, rfl⟩
    rw [if_pos (Nat.le_add_right _ _), drop_bytes_append, Nat.add_sub_cancel_left]
    simp [take_bytes_append]

theorem slice_append (text : List Char) (a m b : Nat) (s t : String)
    (first : slice? text a m = some s) (second : slice? text m b = some t) :
    slice? text a b = some (s ++ t) := by
  obtain ⟨before, after, split, size, reach⟩ := (slice_iff _ _ _ _).mp first
  obtain ⟨before', after', split', size', reach'⟩ := (slice_iff _ _ _ _).mp second
  have rest : dropBytes m text = some after := by
    rw [split, ← List.append_assoc, ← reach, ← size, ← bytes_append, drop_bytes_append]
  have same : dropBytes m text = some (t.toList ++ after') := by
    rw [split', ← size', drop_bytes_append]
  obtain rfl : after = t.toList ++ after' := Option.some.inj (rest.symm.trans same)
  refine (slice_iff _ _ _ _).mpr ⟨before, after', ?_, size, ?_⟩
  · rw [split, String.toList_append, List.append_assoc]
  · rw [String.toList_append, bytes_append]
    omega

theorem slice_start (text : List Char) (a b : Nat) (s : String)
    (cut : slice? text a b = some s) : slice? text a a = some "" := by
  obtain ⟨before, after, split, size, -⟩ := (slice_iff _ _ _ _).mp cut
  exact (slice_iff _ _ _ _).mpr ⟨before, s.toList ++ after, by simpa using split, size, rfl⟩

theorem slice_stop (text : List Char) (a b : Nat) (s : String)
    (cut : slice? text a b = some s) : slice? text b b = some "" := by
  obtain ⟨before, after, split, size, reach⟩ := (slice_iff _ _ _ _).mp cut
  refine (slice_iff _ _ _ _).mpr ⟨before ++ s.toList, after, by simpa using split, ?_, rfl⟩
  rw [bytes_append, size, reach]

end FlowDefs.Text
