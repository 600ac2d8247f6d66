import FlowDefs.Proofs.Flow.Signatures
import FlowDefs.Proofs.Flow.Objects
set_option autoImplicit false

namespace FlowDefs

open Text

namespace FlowType

theorem shapes_agree (l m r s : List Char) (k k' : Shape)
    (begins : ∃ c cs, l = c :: cs ∧ shapeOf? c = some k)
    (begins' : ∃ c cs, m = c :: cs ∧ shapeOf? c = some k') (same : l ++ r = m ++ s) : k = k' := by
  obtain ⟨c, cs, rfl, shape⟩ := begins
  obtain ⟨d, ds, rfl, shape'⟩ := begins'
  obtain ⟨rfl, -⟩ := List.cons_eq_cons.mp same
  exact Option.some.inj (shape.symm.trans shape')

theorem object_part (ps : List (Property FlowType)) (exact inexact : Bool) (p : Property FlowType)
    (member : p ∈ ps) : p.value ∈ (object ps exact inexact).parts := List.mem_map_of_mem member

theorem member_unique (t : FlowType) (printable : t.Printable)
    (unambiguous : ∀ p ∈ t.parts, p.Unambiguous) (k : Shape) (formed : t.shape = some k) :
    t.UnambiguousMember := by
  intro u k' printable' formed' r s stopped stopped' same
  have own := printable_own t printable
  have own' := printable_own u printable'
  have part (p : FlowType) (member : p ∈ t.parts) := printable_part t p printable member
  have part' (p : FlowType) (member : p ∈ u.parts) := printable_part u p printable' member
  obtain rfl := shapes_agree _ _ r s k k' (member_chars_shape t own k formed)
    (member_chars_shape u own' k' formed') same
  by_cases plain : k = .signature
  · subst plain
    obtain ⟨f, rfl⟩ := signature_form t formed
    obtain ⟨g, rfl⟩ := signature_form u formed'
    have inside : (function f).chars ++ ')' :: r = (function g).chars ++ ')' :: s := by
      simpa [memberChars, isFunction] using same
    obtain ⟨types, rest⟩ := function_unique f g printable printable' unambiguous (')' :: r)
      (')' :: s) rfl rfl inside
    exact ⟨types, List.tail_eq_of_cons_eq rest⟩
  · rw [member_chars_plain t k formed plain, member_chars_plain u k formed' plain] at same
    cases k with
    | word =>
        exact word_unique t u printable printable' unambiguous formed formed' r s stopped stopped'
          same
    | quoted =>
        obtain ⟨value, raw, rfl⟩ := quoted_form t formed
        obtain ⟨value', raw', rfl⟩ := quoted_form u formed'
        obtain ⟨rfl, rest⟩ := quoted_unique raw raw' own own' r s same
        exact ⟨rfl, rest⟩
    | bracket =>
        obtain ⟨ts, rfl⟩ := bracket_form t formed
        obtain ⟨us, rfl⟩ := bracket_form u formed'
        exact tuple_unique ts us unambiguous part part' r s stopped stopped' same
    | brace =>
        obtain ⟨ps, exact, inexact, rfl⟩ := brace_form t formed
        obtain ⟨qs, exact', inexact', rfl⟩ := brace_form u formed'
        exact object_unique ps qs exact exact' inexact inexact' own own'
          (fun p member => unambiguous _ (object_part ps exact inexact p member))
          (fun q member => part' _ (object_part qs exact' inexact' q member)) r s stopped stopped'
          same
    | signature => exact absurd rfl plain

-- The members of a union; any other type stands alone.
def bases : FlowType → List FlowType
  | .union members => members
  | t => [t]

theorem bases_single (t : FlowType) (k : Shape) (formed : t.shape = some k) : t.bases = [t] := by
  cases t with
  | union => cases formed
  | _ => rfl

theorem bases_nonempty (t : FlowType) (own : t.WellSpelled) : ∃ m ms, t.bases = m :: ms := by
  cases t with
  | union members =>
      obtain ⟨m, n, ms, rfl⟩ := union_cons members own
      exact ⟨m, n :: ms, rfl⟩
  | _ => exact ⟨_, [], rfl⟩

theorem base_facts (t : FlowType) (printable : t.Printable) (m : FlowType) (member : m ∈ t.bases) :
    m.Printable ∧ ∃ k, m.shape = some k := by
  cases formed : t.shape with
  | none =>
      obtain ⟨members, rfl⟩ := union_form t formed
      exact ⟨printable_part _ m printable member,
        shape_of_member members (printable_own _ printable) m member⟩
  | some k =>
      rw [bases_single t k formed, List.mem_singleton] at member
      exact ⟨member ▸ printable, k, member ▸ formed⟩

theorem chars_bases (t : FlowType) (own : t.WellSpelled) (plain : t.isFunction = false) :
    t.chars = listing bar (t.bases.map memberChars) := by
  cases t with
  | union members =>
      obtain ⟨m, n, ms, rfl⟩ := union_cons members own
      rw [chars_union, bases, List.map_cons, listing, List.flatMap_map]
  | function => cases plain
  | _ => simp [bases, listing, memberChars, isFunction]

theorem bases_determine (t u : FlowType) (own : t.WellSpelled) (own' : u.WellSpelled)
    (same : t.bases.map undecoded = u.bases.map undecoded) : t.undecoded = u.undecoded := by
  have lengths : t.bases.length = u.bases.length := by simpa using congrArg List.length same
  cases formed : t.shape with
  | none =>
      obtain ⟨members, rfl⟩ := union_form t formed
      cases formed' : u.shape with
      | none =>
          obtain ⟨members', rfl⟩ := union_form u formed'
          rw [undecoded, undecoded, undecoded_all_eq, undecoded_all_eq]
          exact congrArg union same
      | some k =>
          have several : 2 ≤ (union members).bases.length := own.1
          rw [lengths, bases_single u k formed'] at several
          cases several with
          | step impossible => cases impossible
  | some k =>
      rw [bases_single t k formed] at same lengths
      cases formed' : u.shape with
      | none =>
          obtain ⟨members', rfl⟩ := union_form u formed'
          have several : 2 ≤ (union members').bases.length := own'.1
          rw [← lengths] at several
          cases several with
          | step impossible => cases impossible
      | some k' =>
          rw [bases_single u k' formed'] at same
          exact List.head_eq_of_cons_eq same

-- A function type goes on with an arrow where a union goes on with a bar.
theorem function_no_other (s : Signature FlowType) (printable : (function s).Printable)
    (u : FlowType) (printable' : u.Printable) (plain : u.isFunction = false)
    (determined : ∀ m ∈ u.parts, ∀ x ∈ s.items,
      Determined itemChars undecodedItem Closes x (.inl ⟨none, m, false⟩)) (r l : List Char) :
    (function s).chars ++ r ≠ u.chars ++ l := by
  intro same
  have own := printable_own _ printable
  have own' := printable_own u printable'
  have begins := chars_shape (function s) own .signature rfl
  cases formed : u.shape with
  | some k =>
      obtain rfl := shapes_agree _ _ r l .signature k begins (chars_shape u own' k formed) same
      obtain ⟨s', rfl⟩ := signature_form u formed
      cases plain
  | none =>
      obtain ⟨members, rfl⟩ := union_form u formed
      obtain ⟨m, n, ms, rfl⟩ := union_cons members own'
      have first := printable_part _ m printable' List.mem_cons_self
      obtain ⟨k, formed⟩ := shape_of_member _ own' m List.mem_cons_self
      simp only [chars_union, List.flatMap_cons, List.append_assoc] at same
      obtain rfl := shapes_agree _ _ r _ .signature k begins
        (member_chars_shape m (printable_own m first) k formed) same
      obtain ⟨s', rfl⟩ := signature_form m formed
      exact function_no_member s printable (function s') rfl first
        (determined _ List.mem_cons_self) _ _ same

theorem closed_unique (t : FlowType) (printable : t.Printable)
    (parts : ∀ p ∈ t.parts, p.Unambiguous)
    (members : ∀ m ∈ t.bases, m.UnambiguousMember) : t.Unambiguous := by
  intro u printable' r s closed closed' same
  have part (p : FlowType) (member : p ∈ t.parts) := printable_part t p printable member
  have part' (p : FlowType) (member : p ∈ u.parts) := printable_part u p printable' member
  cases left : t.isFunction with
  | true =>
      cases t with
      | function f =>
          cases right : u.isFunction with
          | true =>
              cases u with
              | function g =>
                  exact function_unique f g printable printable' parts r s closed closed' same
              | _ => cases right
          | false =>
              refine absurd same (function_no_other f printable u printable' right ?_ r s)
              intro m member x listed
              obtain ⟨own, inside⟩ := item_param f printable x listed
              exact item_unique x _ own rfl (parts _ inside) (part _ inside) (part' m member)
      | _ => cases left
  | false =>
      cases right : u.isFunction with
      | true =>
          cases u with
          | function g =>
              refine absurd same.symm (function_no_other g printable' t printable left ?_ s r)
              intro m member x listed
              obtain ⟨own, inside⟩ := item_param g printable' x listed
              exact determined_symm _ _ _ _ _ (item_unique (.inl ⟨none, m, false⟩) x rfl own
                (parts m member) (part m member) (part' _ inside))
          | _ => cases right
      | false =>
          have own := printable_own t printable
          have own' := printable_own u printable'
          obtain ⟨m, ms, some⟩ := bases_nonempty t own
          obtain ⟨n, ns, some'⟩ := bases_nonempty u own'
          rw [chars_bases t own left, chars_bases u own' right, some, some'] at same
          obtain ⟨types, rest⟩ := nonempty_listing_unique bar memberChars undecoded Stops bar_stops
            r s ⟨closes_stops r closed, closes_no_bar r closed⟩
            ⟨closes_stops s closed', closes_no_bar s closed'⟩ m n ms ns
            (fun a member b member' => by
              rw [← some] at member
              rw [← some'] at member'
              obtain ⟨spelled, k, formed⟩ := base_facts u printable' b member'
              exact members a member b k spelled formed) same
          rw [← some, ← some'] at types
          exact ⟨bases_determine t u own own' types, rest⟩

theorem unambiguous (t : FlowType) (printable : t.Printable) :
    t.Unambiguous ∧ ∀ k : Shape, t.shape = some k → t.UnambiguousMember := by
  induction t using by_parts with
  | step t ih =>
      have below (p : FlowType) (member : p ∈ t.parts) :=
        ih p member (printable_part t p printable member)
      have parts (p : FlowType) (member : p ∈ t.parts) : p.Unambiguous := (below p member).1
      have alone := member_unique t printable parts
      refine ⟨closed_unique t printable parts fun m member => ?_, alone⟩
      obtain ⟨-, k, formed⟩ := base_facts t printable m member
      cases whole : t.shape with
      | some k' =>
          rw [bases_single t k' whole, List.mem_singleton] at member
          exact member ▸ alone k' whole
      | none =>
          obtain ⟨members, rfl⟩ := union_form t whole
          exact (below m member).2 k formed

theorem printed_type_unambiguous (t u : FlowType) (printable : t.Printable)
    (printable' : u.Printable) (same : t.print = u.print) : t.undecoded = u.undecoded := by
  have texts : t.chars ++ [] = u.chars ++ [] := by rw [chars, chars, same]
  exact ((unambiguous t printable).1 u printable' [] [] rfl rfl texts).1

theorem leaf_printable (t : FlowType) (own : t.WellSpelled) (empty : t.parts = []) : t.Printable :=
  .intro t own fun p member => absurd member (by rw [empty]; exact List.not_mem_nil)

-- The type ((a, ...rest: Array<1>) => void) | null, with any value for the numeral.
def signatureOrNull (value : Number.Binary64) : FlowType :=
  .union [.function ⟨none, [⟨none, .bare "a", false⟩],
    some ⟨some "rest", .array (.literal (.number value "1")), false⟩, .primitive .void⟩,
    .literal .null]

theorem signature_or_null_printable (value : Number.Binary64) :
    (signatureOrNull value).Printable := by
  have a : (bare "a").Printable :=
    leaf_printable _ ⟨rfl, List.cons_ne_nil _ _, by decide, by decide⟩ rfl
  have numeral : (literal (.number value "1")).Printable :=
    leaf_printable _ (by decide : isNumeral "1" = true) rfl
  have items : (array (literal (.number value "1"))).Printable :=
    .intro _ trivial (by simpa [parts] using numeral)
  have void : (primitive .void).Printable := leaf_printable _ trivial rfl
  have null : (literal .null).Printable := leaf_printable _ trivial rfl
  refine .intro _ ⟨Nat.le_refl 2, by simp⟩ ?_
  simp only [signatureOrNull, parts, List.forall_mem_cons]
  refine ⟨.intro _ ⟨by simp, ?_⟩ ?_, null, by simp⟩
  · simp [Param.WellSpelled]
    decide
  · simpa [parts, Signature.types, typesOfParams] using ⟨a, items, void⟩

theorem printed_signature_unambiguous :
    (signatureOrNull .nan).Printable ∧ (signatureOrNull .zero).Printable ∧
      (signatureOrNull .nan).print = (signatureOrNull .zero).print ∧
      (signatureOrNull .nan).undecoded = (signatureOrNull .zero).undecoded :=
  ⟨signature_or_null_printable .nan, signature_or_null_printable .zero, rfl,
    printed_type_unambiguous _ _ (signature_or_null_printable .nan)
      (signature_or_null_printable .zero) rfl⟩

end FlowType

end FlowDefs
