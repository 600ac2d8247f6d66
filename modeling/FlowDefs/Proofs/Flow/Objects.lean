import FlowDefs.Proofs.Flow.Parts
set_option autoImplicit false

namespace FlowDefs

open Text

namespace FlowType

theorem key_opens (key : PropertyKey) (own : key.WellSpelled) : Opens key.text.toList := by
  cases key with
  | identifier name => exact word_opens name own
  | string value raw =>
      obtain ⟨c, cs, spelled, shape⟩ := quoted_opens raw own
      exact ⟨c, cs, spelled, by rw [shape]; rfl⟩

theorem word_no_quoted (w raw : String) (word : isWord w = true) (quoted : isQuoted raw = true)
    (r l : List Char) : raw.toList ++ r ≠ w.toList ++ l :=
  shape_no_label raw.toList .quoted (by decide) (quoted_opens raw quoted) w word r l

theorem key_unique (key key' : PropertyKey) (own : key.WellSpelled) (own' : key'.WellSpelled)
    (r s : List Char) (ends : ∀ c ∈ r.head?, isTokenChar c = false)
    (ends' : ∀ c ∈ s.head?, isTokenChar c = false)
    (same : key.text.toList ++ r = key'.text.toList ++ s) :
    key.undecoded = key'.undecoded ∧ r = s := by
  cases key with
  | identifier name =>
      cases key' with
      | identifier name' =>
          obtain ⟨names, rest⟩ := name_unique name name' own own' r s ends ends' same
          exact ⟨by rw [names], rest⟩
      | string value raw => exact absurd same.symm (word_no_quoted name raw own own' s r)
  | string value raw =>
      cases key' with
      | identifier name => exact absurd same (word_no_quoted name raw own' own r s)
      | string value' raw' =>
          obtain ⟨raws, rest⟩ := quoted_unique raw raw' own own' r s same
          exact ⟨by rw [PropertyKey.undecoded, PropertyKey.undecoded, raws], rest⟩

theorem property_unique (p q : Property FlowType) (own : p.key.WellSpelled)
    (own' : q.key.WellSpelled) (unambiguous : p.value.Unambiguous) (printable : q.value.Printable) :
    Determined propertyChars undecodedProperty Closes p q := by
  intro r s closed closed' same
  simp only [propertyChars, List.append_assoc] at same
  obtain ⟨keys, marked⟩ := key_unique p.key q.key own own' _ _ (mark_no_token p.optional _)
    (mark_no_token q.optional _) same
  obtain ⟨marks, typed⟩ := mark_unique p.optional q.optional _ _ marked
  obtain ⟨values, rest⟩ := unambiguous q.value printable r s closed closed' typed
  exact ⟨by rw [undecodedProperty, undecodedProperty, keys, marks, values], rest⟩

def undecodedEntry : Property FlowType ⊕ Unit → Property FlowType ⊕ Unit :=
  Sum.map undecodedProperty id

theorem property_opens (p : Property FlowType) (own : p.key.WellSpelled) :
    Opens (propertyChars p) :=
  opens_append _ _ (key_opens p.key own)

theorem entry_unique (ps qs : List (Property FlowType)) (inexact inexact' : Bool)
    (own : ∀ p ∈ ps, p.key.WellSpelled) (own' : ∀ q ∈ qs, q.key.WellSpelled)
    (unambiguous : ∀ p ∈ ps, p.value.Unambiguous) (printable : ∀ q ∈ qs, q.value.Printable) :
    ∀ x ∈ entries ps inexact, ∀ y ∈ entries qs inexact',
      Determined entryChars undecodedEntry Closes x y := by
  have property (ps : List (Property FlowType)) (inexact : Bool) (p : Property FlowType)
      (member : .inl p ∈ entries ps inexact) : p ∈ ps := by simpa [entries] using member
  intro x member y member' r s closed closed' same
  cases x with
  | inl p =>
      have listed := property ps inexact p member
      cases y with
      | inl q =>
          have listed' := property qs inexact' q member'
          obtain ⟨properties, rest⟩ := property_unique p q (own p listed) (own' q listed')
            (unambiguous p listed) (printable q listed') r s closed closed' same
          exact ⟨congrArg Sum.inl properties, rest⟩
      | inr =>
          exact absurd same (opens_no_dot _ _ (opens_append _ r (property_opens p (own p listed))))
  | inr =>
      cases y with
      | inl q =>
          have listed' := property qs inexact' q member'
          exact absurd same.symm
            (opens_no_dot _ _ (opens_append _ s (property_opens q (own' q listed'))))
      | inr => exact ⟨rfl, List.append_cancel_left same⟩

theorem entries_unique (ps qs : List (Property FlowType)) (inexact inexact' : Bool)
    (own : ∀ p ∈ ps, p.key.WellSpelled) (own' : ∀ q ∈ qs, q.key.WellSpelled)
    (unambiguous : ∀ p ∈ ps, p.value.Unambiguous) (printable : ∀ q ∈ qs, q.value.Printable)
    (r s : List Char) (closed : Closes (' ' :: r)) (closed' : Closes (' ' :: s))
    (same : listing comma ((entries ps inexact).map entryChars) ++ ' ' :: r =
      listing comma ((entries qs inexact').map entryChars) ++ ' ' :: s) :
    ps.map undecodedProperty = qs.map undecodedProperty ∧ inexact = inexact' ∧ r = s := by
  have starts (ps : List (Property FlowType)) (inexact : Bool) (own : ∀ p ∈ ps, p.key.WellSpelled)
      (r : List Char) :
      ∀ x ∈ entries ps inexact, ∀ l : List Char, entryChars x ++ l ≠ ' ' :: r := by
    intro x member l same
    cases x with
    | inl p =>
        have listed : p ∈ ps := by simpa [entries] using member
        exact opens_no_stop _ _ (opens_append _ l (property_opens p (own p listed))) (by rfl) same
    | inr => cases same
  obtain ⟨views, rest⟩ := listing_unique comma entryChars undecodedEntry Closes comma_closes _ _
    ⟨closed, by simp [comma]⟩ ⟨closed', by simp [comma]⟩ (entries ps inexact) (entries qs inexact')
    (entry_unique ps qs inexact inexact' own own' unambiguous printable) (starts ps inexact own s)
    (starts qs inexact' own' r) same
  have split (ps : List (Property FlowType)) (inexact : Bool) :
      (entries ps inexact).map undecodedEntry = (ps.map undecodedProperty).map .inl ++
        (if inexact then some () else none).toList.map .inr := by
    rw [entries, List.map_append, List.map_map, List.map_map, List.map_map]
    cases inexact <;> rfl
  rw [split, split] at views
  obtain ⟨properties, marks⟩ := sides_unique _ _ _ _ views
  refine ⟨properties, ?_, List.tail_eq_of_cons_eq rest⟩
  cases inexact <;> cases inexact' <;> first | rfl | cases marks

theorem object_unique (ps qs : List (Property FlowType)) (exact exact' inexact inexact' : Bool)
    (own : ∀ p ∈ ps, p.key.WellSpelled) (own' : ∀ q ∈ qs, q.key.WellSpelled)
    (unambiguous : ∀ p ∈ ps, p.value.Unambiguous) (printable : ∀ q ∈ qs, q.value.Printable) :
    Determined chars undecoded Stops (object ps exact inexact) (object qs exact' inexact') := by
  intro r s _ _ same
  rw [chars_object, chars_object] at same
  cases ps with
  | nil =>
      cases qs with
      | nil =>
          cases exact <;> cases exact' <;> cases inexact <;> cases inexact' <;>
            simp_all [padding, entries, entryChars, listing, closeChars]
      | cons q qs =>
          cases exact <;> cases exact' <;> cases inexact <;>
            simp [padding, entries, entryChars, listing, closeChars] at same
  | cons p ps =>
      cases qs with
      | nil =>
          cases exact <;> cases exact' <;> cases inexact' <;>
            simp [padding, entries, entryChars, listing, closeChars] at same
      | cons q qs =>
          have exacts : exact = exact' := by
            cases exact <;> cases exact' <;> first | rfl | simp [padding] at same
          subst exacts
          have closed (r : List Char) : Closes (' ' :: (closeChars exact ++ r)) := by
            cases exact <;> rfl
          simp only [padding, List.isEmpty_cons, Bool.false_eq_true, if_false, List.cons_append,
            List.append_assoc, List.nil_append, List.cons.injEq, true_and] at same
          obtain ⟨properties, marks, rest⟩ := entries_unique (p :: ps) (q :: qs) inexact inexact'
            own own' unambiguous printable _ _ (closed r) (closed s)
            (List.tail_eq_of_cons_eq (List.append_cancel_left same))
          refine ⟨?_, List.append_cancel_left rest⟩
          rw [undecoded, undecoded, undecoded_properties_eq, undecoded_properties_eq, properties,
            marks]

end FlowType

end FlowDefs
