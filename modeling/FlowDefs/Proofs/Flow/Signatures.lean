import FlowDefs.Proofs.Flow.Parts
set_option autoImplicit false

namespace FlowDefs

open Text

namespace FlowType

theorem type_param_unique (p q : TypeParam FlowType) (word : isWord p.name = true)
    (word' : isWord q.name = true) (unambiguous : ∀ t ∈ p.types, t.Unambiguous)
    (printable : ∀ u ∈ q.types, u.Printable) :
    Determined typeParamChars undecodedTypeParam (fun r => Closes r ∧ ¬ [' ', '=', ' '] <+: r)
      p q := by
  intro r s ends ends' same
  simp only [typeParamChars, List.append_assoc] at same
  have afterBound (default : Option FlowType) (r : List Char) (closed : Closes r) :
      Closes (optionChars [' ', '=', ' '] default ++ r) ∧
        ¬ [':', ' '] <+: optionChars [' ', '=', ' '] default ++ r := by
    cases default with
    | some t => exact ⟨rfl, by simp [optionChars]⟩
    | none =>
        refine ⟨closed, ?_⟩
        rintro ⟨l, rfl⟩
        cases closed
  have afterName (bound : Option FlowType) (r : List Char) (closed : Closes r) :
      ∀ c ∈ (optionChars [':', ' '] bound ++ r).head?, isTokenChar c = false := by
    cases bound with
    | some t => simp [optionChars]; decide
    | none => exact stop_no_token r (closes_stops r closed)
  have behind := afterBound p.default r ends.1
  have behind' := afterBound q.default s ends'.1
  obtain ⟨name, marked⟩ := name_unique p.name q.name word word' _ _ (afterName p.bound _ behind.1)
    (afterName q.bound _ behind'.1) same
  obtain ⟨bound, left⟩ := option_unique [':', ' '] p.bound q.bound
    (fun t member => unambiguous t (List.mem_append_left _ (Option.mem_toList.mpr member)))
    (fun t member => printable t (List.mem_append_left _ (Option.mem_toList.mpr member)))
    _ _ behind behind' marked
  obtain ⟨default, rest⟩ := option_unique [' ', '=', ' '] p.default q.default
    (fun t member => unambiguous t (List.mem_append_right _ (Option.mem_toList.mpr member)))
    (fun t member => printable t (List.mem_append_right _ (Option.mem_toList.mpr member)))
    r s ends ends' left
  exact ⟨by rw [undecodedTypeParam, undecodedTypeParam, name, bound, default], rest⟩

theorem type_param_begins (p : TypeParam FlowType) (word : isWord p.name = true) :
    Opens (typeParamChars p) := opens_append _ _ (word_opens p.name word)

theorem type_params_unique (ps qs : Option (List (TypeParam FlowType)))
    (words : ∀ p ∈ ps.getD [], isWord p.name = true)
    (words' : ∀ q ∈ qs.getD [], isWord q.name = true)
    (unambiguous : ∀ t ∈ typesOfParams ps, t.Unambiguous)
    (printable : ∀ u ∈ typesOfParams qs, u.Printable) (r s : List Char)
    (same : typeParamsChars ps ++ '(' :: r = typeParamsChars qs ++ '(' :: s) :
    ps.map (List.map undecodedTypeParam) = qs.map (List.map undecodedTypeParam) ∧ r = s := by
  cases ps with
  | none =>
      cases qs with
      | none => exact ⟨rfl, List.tail_eq_of_cons_eq same⟩
      | some qs => cases same
  | some ps =>
      cases qs with
      | none => cases same
      | some qs =>
          have starts (ps : List (TypeParam FlowType)) (words : ∀ p ∈ ps, isWord p.name = true)
              (r : List Char) : ∀ p ∈ ps, ∀ l : List Char, typeParamChars p ++ l ≠ '>' :: r :=
            fun p member l =>
              opens_no_stop _ _ (opens_append _ l (type_param_begins p (words p member))) rfl
          have ends (r : List Char) :
              (Closes ('>' :: r) ∧ ¬ [' ', '=', ' '] <+: '>' :: r) ∧ ¬ comma <+: '>' :: r :=
            ⟨⟨rfl, by simp⟩, by simp [comma]⟩
          simp only [typeParamsChars, List.cons_append, List.append_assoc, List.nil_append] at same
          obtain ⟨params, rest⟩ := listing_unique comma typeParamChars undecodedTypeParam
            (fun r => Closes r ∧ ¬ [' ', '=', ' '] <+: r) (fun l => ⟨rfl, by simp [comma]⟩) _ _
            (ends _) (ends _) ps qs
            (fun p member q member' => type_param_unique p q (words p member) (words' q member')
              (fun t inside => unambiguous t (List.mem_flatMap.mpr ⟨p, member, inside⟩))
              (fun t inside => printable t (List.mem_flatMap.mpr ⟨q, member', inside⟩)))
            (starts ps words _) (starts qs words' _) (List.tail_eq_of_cons_eq same)
          exact ⟨congrArg some params, List.tail_eq_of_cons_eq (List.tail_eq_of_cons_eq rest)⟩

theorem param_opens (p : Param FlowType) (own : p.WellSpelled) (printable : p.type.Printable) :
    Opens (paramChars p) := by
  obtain ⟨name, type, optional⟩ := p
  cases name with
  | none => exact chars_opens type printable
  | some name => exact opens_append _ _ (word_opens name own)

theorem unnamed_no_named (t : FlowType) (printable : t.Printable) (name : String)
    (word : isWord name = true) (optional : Bool) (l r : List Char) (closed : Closes r) :
    t.chars ++ r ≠ name.toList ++ (markChars optional ++ l) := by
  cases optional with
  | false => exact no_label t printable name word r (closes_stops r closed) ':' _ (.inl rfl)
  | true => exact no_label t printable name word r (closes_stops r closed) '?' _ (.inr rfl)

theorem param_unique (p q : Param FlowType) (own : p.WellSpelled) (own' : q.WellSpelled)
    (unambiguous : p.type.Unambiguous) (printable : p.type.Printable)
    (printable' : q.type.Printable) : Determined paramChars undecodedParam Closes p q := by
  obtain ⟨name, type, optional⟩ := p
  obtain ⟨name', type', optional'⟩ := q
  intro r s closed closed' same
  cases name with
  | none =>
      cases name' with
      | none =>
          obtain ⟨types, rest⟩ := unambiguous type' printable' r s closed closed' same
          have required : optional = false := own
          have required' : optional' = false := own'
          refine ⟨?_, rest⟩
          rw [undecodedParam, undecodedParam, types, required, required']
      | some name' =>
          simp only [paramChars, List.append_assoc] at same
          exact absurd same (unnamed_no_named type printable name' own' optional' _ r closed)
  | some name =>
      cases name' with
      | none =>
          simp only [paramChars, List.append_assoc] at same
          exact absurd same.symm (unnamed_no_named type' printable' name own optional _ s closed')
      | some name' =>
          simp only [paramChars, List.append_assoc] at same
          obtain ⟨names, marked⟩ := name_unique name name' own own' _ _ (mark_no_token optional _)
            (mark_no_token optional' _) same
          obtain ⟨marks, typed⟩ := mark_unique optional optional' _ _ marked
          obtain ⟨types, rest⟩ := unambiguous type' printable' r s closed closed' typed
          exact ⟨by rw [undecodedParam, undecodedParam, names, marks, types], rest⟩

-- The parameter itself, be it the rest parameter or not.
def paramOf : Param FlowType ⊕ Param FlowType → Param FlowType := Sum.elim id id

def undecodedItem : Param FlowType ⊕ Param FlowType → Param FlowType ⊕ Param FlowType :=
  Sum.map undecodedParam undecodedParam

theorem item_unique (x y : Param FlowType ⊕ Param FlowType) (own : (paramOf x).WellSpelled)
    (own' : (paramOf y).WellSpelled) (unambiguous : (paramOf x).type.Unambiguous)
    (printable : (paramOf x).type.Printable) (printable' : (paramOf y).type.Printable) :
    Determined itemChars undecodedItem Closes x y := by
  intro r s closed closed' same
  cases x with
  | inl p =>
      cases y with
      | inl q =>
          obtain ⟨params, rest⟩ := param_unique p q own own' unambiguous printable printable' r s
            closed closed' same
          exact ⟨congrArg Sum.inl params, rest⟩
      | inr q =>
          exact absurd same (opens_no_dot _ _ (opens_append _ r (param_opens p own printable)))
  | inr p =>
      cases y with
      | inl q =>
          exact absurd same.symm
            (opens_no_dot _ _ (opens_append _ s (param_opens q own' printable')))
      | inr q =>
          have params : paramChars p ++ r = paramChars q ++ s :=
            List.append_cancel_left (show ['.', '.', '.'] ++ (paramChars p ++ r) = _ from same)
          obtain ⟨params, rest⟩ := param_unique p q own own' unambiguous printable printable' r s
            closed closed' params
          exact ⟨congrArg Sum.inr params, rest⟩

theorem item_param (s : Signature FlowType) (printable : (function s).Printable)
    (x : Param FlowType ⊕ Param FlowType) (member : x ∈ s.items) :
    (paramOf x).WellSpelled ∧ (paramOf x).type ∈ s.types := by
  have own := (printable_own _ printable).2
  rcases List.mem_append.mp member with positional | rest
  · obtain ⟨p, listed, rfl⟩ := List.mem_map.mp positional
    exact ⟨own p (List.mem_append_left _ listed), by
      simp only [Signature.types, List.mem_append]
      exact .inl (.inl (.inr (List.mem_map_of_mem listed)))⟩
  · obtain ⟨p, listed, rfl⟩ := List.mem_map.mp rest
    exact ⟨own p (List.mem_append_right _ listed), by
      simp only [Signature.types, List.mem_append]
      exact .inl (.inr (List.mem_map_of_mem listed))⟩

theorem items_unique (xs ys : List (Param FlowType ⊕ Param FlowType))
    (ready : ∀ x ∈ xs, (paramOf x).WellSpelled ∧ (paramOf x).type.Printable)
    (ready' : ∀ y ∈ ys, (paramOf y).WellSpelled ∧ (paramOf y).type.Printable)
    (determined : ∀ x ∈ xs, ∀ y ∈ ys, Determined itemChars undecodedItem Closes x y)
    (r s : List Char)
    (same : listing comma (xs.map itemChars) ++ ')' :: r =
      listing comma (ys.map itemChars) ++ ')' :: s) :
    xs.map undecodedItem = ys.map undecodedItem ∧ r = s := by
  have starts (xs : List (Param FlowType ⊕ Param FlowType))
      (ready : ∀ x ∈ xs, (paramOf x).WellSpelled ∧ (paramOf x).type.Printable) (r : List Char) :
      ∀ x ∈ xs, ∀ l : List Char, itemChars x ++ l ≠ ')' :: r := by
    intro x member l same
    cases x with
    | inl p =>
        obtain ⟨own, printable⟩ := ready _ member
        exact opens_no_stop _ _ (opens_append _ l (param_opens p own printable)) (by rfl) same
    | inr p => cases same
  have ends (r : List Char) : Closes (')' :: r) ∧ ¬ comma <+: ')' :: r := ⟨rfl, by simp [comma]⟩
  obtain ⟨items, rest⟩ := listing_unique comma itemChars undecodedItem Closes comma_closes _ _
    (ends r) (ends s) xs ys determined (starts xs ready s) (starts ys ready' r) same
  exact ⟨items, List.tail_eq_of_cons_eq rest⟩

theorem items_ready (s : Signature FlowType) (printable : (function s).Printable) :
    ∀ x ∈ s.items, (paramOf x).WellSpelled ∧ (paramOf x).type.Printable := by
  intro x member
  obtain ⟨own, inside⟩ := item_param s printable x member
  exact ⟨own, printable_part (function s) _ printable inside⟩

theorem undecoded_function (s s' : Signature FlowType)
    (typeParams : s.typeParams.map (List.map undecodedTypeParam) =
      s'.typeParams.map (List.map undecodedTypeParam))
    (items : s.items.map undecodedItem = s'.items.map undecodedItem)
    (result : s.result.undecoded = s'.result.undecoded) :
    (function s).undecoded = (function s').undecoded := by
  have split (s : Signature FlowType) : s.items.map undecodedItem =
      (s.params.map undecodedParam).map .inl ++ (s.rest.map undecodedParam).toList.map .inr := by
    rw [Signature.items, List.map_append, List.map_map, List.map_map, List.map_map]
    cases s.rest <;> rfl
  rw [split, split] at items
  obtain ⟨params, rest⟩ := sides_unique _ _ _ _ items
  obtain ⟨ps, xs, o, t⟩ := s
  obtain ⟨ps', xs', o', t'⟩ := s'
  simp only [undecoded, undecodedSignature, undecoded_type_params_eq, undecoded_params_eq,
    undecoded_rest_eq]
  rw [show _ = _ from typeParams, show _ = _ from params, show _ = _ from rest,
    show _ = _ from result]

theorem function_unique (s s' : Signature FlowType) (printable : (function s).Printable)
    (printable' : (function s').Printable) (unambiguous : ∀ t ∈ s.types, t.Unambiguous) :
    Determined chars undecoded Closes (function s) (function s') := by
  intro r r' closed closed' same
  have part (t : FlowType) (inside : t ∈ s.types) : t.Printable :=
    printable_part (function s) t printable inside
  have part' (t : FlowType) (inside : t ∈ s'.types) : t.Printable :=
    printable_part (function s') t printable' inside
  have result (s : Signature FlowType) : s.result ∈ s.types := by simp [Signature.types]
  have bounds (s : Signature FlowType) : ∀ t ∈ typesOfParams s.typeParams, t ∈ s.types := by
    intro t inside
    simp only [Signature.types, List.mem_append]
    exact .inl (.inl (.inl inside))
  simp only [chars_function, List.append_assoc, List.cons_append] at same
  obtain ⟨typeParams, listed⟩ := type_params_unique s.typeParams s'.typeParams
    (printable_own _ printable).1 (printable_own _ printable').1
    (fun t inside => unambiguous t (bounds s t inside))
    (fun t inside => part' t (bounds s' t inside))
    _ _ same
  obtain ⟨items, arrow⟩ := items_unique s.items s'.items (items_ready s printable)
    (items_ready s' printable')
    (fun x member y member' => by
      obtain ⟨own, inside⟩ := item_param s printable x member
      obtain ⟨own', inside'⟩ := item_param s' printable' y member'
      exact item_unique x y own own' (unambiguous _ inside) (part _ inside) (part' _ inside'))
    _ _ listed
  simp only [List.cons.injEq, true_and] at arrow
  obtain ⟨results, rest⟩ := unambiguous s.result (result s) s'.result (part' _ (result s')) r r'
    closed closed' arrow
  exact ⟨undecoded_function s s' typeParams items results, rest⟩

-- Before the next member of a union there is the parenthesis that closes this one, not an arrow.
theorem function_no_member (s : Signature FlowType) (printable : (function s).Printable)
    (m : FlowType) (parenthesized : m.isFunction = true) (printable' : m.Printable)
    (determined : ∀ x ∈ s.items,
      Determined itemChars undecodedItem Closes x (.inl ⟨none, m, false⟩)) (r l : List Char) :
    (function s).chars ++ r ≠ m.memberChars ++ (bar ++ l) := by
  intro same
  rw [memberChars, if_pos parenthesized, chars_function] at same
  cases generic : s.typeParams with
  | some ps =>
      rw [generic] at same
      cases same
  | none =>
      rw [generic] at same
      simp only [typeParamsChars, List.nil_append, List.cons_append, List.append_assoc,
        List.cons.injEq, true_and] at same
      have single : listing comma ([.inl ⟨none, m, false⟩].map itemChars) = m.chars :=
        List.append_nil m.chars
      rw [← single] at same
      obtain ⟨-, arrow⟩ := items_unique s.items [.inl ⟨none, m, false⟩] (items_ready s printable)
        (by simpa using ⟨rfl, printable'⟩)
        (fun x member y only => by rw [List.mem_singleton.mp only]; exact determined x member)
        _ _ same
      cases arrow

end FlowType

end FlowDefs
