import FlowDefs.Proofs.Flow.Forms
set_option autoImplicit false

namespace FlowDefs

open Text

theorem comma_closes (l : List Char) : Closes (comma ++ l) := by rfl

theorem bar_stops (l : List Char) : Stops (bar ++ l) := by rfl

theorem mark_unique (optional optional' : Bool) (l m : List Char)
    (same : FlowType.markChars optional ++ l = FlowType.markChars optional' ++ m) :
    optional = optional' ∧ l = m := by
  cases optional <;> cases optional' <;> simp_all [FlowType.markChars]

namespace FlowType

def Unambiguous (t : FlowType) : Prop :=
  ∀ u : FlowType, u.Printable → Determined chars undecoded Closes t u

-- As a member of a union, where another member may follow.
def UnambiguousMember (t : FlowType) : Prop :=
  ∀ (u : FlowType) (k : Shape), u.Printable → u.shape = some k →
    Determined memberChars undecoded Stops t u

theorem types_unique (ts us : List FlowType) (unambiguous : ∀ t ∈ ts, t.Unambiguous)
    (printable : ∀ t ∈ ts, t.Printable) (printable' : ∀ u ∈ us, u.Printable) (c : Char)
    (closing : c = '>' ∨ c = ']') (r s : List Char)
    (same : listing comma (ts.map chars) ++ c :: r = listing comma (us.map chars) ++ c :: s) :
    ts.map undecoded = us.map undecoded ∧ r = s := by
  have closed (l : List Char) : Closes (c :: l) ∧ ¬ comma <+: c :: l := by
    rcases closing with rfl | rfl <;> exact ⟨rfl, by simp [comma]⟩
  have starts (ts : List FlowType) (printable : ∀ t ∈ ts, t.Printable) (r : List Char) :
      ∀ t ∈ ts, ∀ l : List Char, t.chars ++ l ≠ c :: r := fun t member l =>
    opens_no_stop _ _ (opens_append _ l (chars_opens t (printable t member)))
      (closes_stops _ (closed r).1)
  obtain ⟨types, rest⟩ := listing_unique comma chars undecoded Closes comma_closes (c :: r) (c :: s)
    (closed r) (closed s) ts us
    (fun t member u member' => unambiguous t member u (printable' u member'))
    (starts ts printable s) (starts us printable' r) same
  exact ⟨types, List.tail_eq_of_cons_eq rest⟩

theorem option_unique (mark : List Char) (t u : Option FlowType)
    (unambiguous : ∀ a ∈ t, a.Unambiguous) (printable : ∀ b ∈ u, b.Printable) (r s : List Char)
    (endsLeft : Closes r ∧ ¬ mark <+: r) (endsRight : Closes s ∧ ¬ mark <+: s)
    (same : optionChars mark t ++ r = optionChars mark u ++ s) :
    t.map undecoded = u.map undecoded ∧ r = s := by
  cases t with
  | none =>
      cases u with
      | none => exact ⟨rfl, same⟩
      | some b =>
          refine absurd ?_ endsLeft.2
          rw [show r = _ from same, optionChars, List.append_assoc]
          exact List.prefix_append ..
  | some a =>
      cases u with
      | none =>
          refine absurd ?_ endsRight.2
          rw [show s = _ from same.symm, optionChars, List.append_assoc]
          exact List.prefix_append ..
      | some b =>
          rw [optionChars, optionChars, List.append_assoc, List.append_assoc] at same
          obtain ⟨type, rest⟩ := unambiguous a rfl b (printable b rfl) r s endsLeft.1 endsRight.1
            (List.append_cancel_left same)
          exact ⟨congrArg some type, rest⟩

-- Names are followed by a mark that is no part of them.
theorem name_unique (w v : String) (word : isWord w = true) (word' : isWord v = true)
    (r s : List Char) (ends : ∀ c ∈ r.head?, isTokenChar c = false)
    (ends' : ∀ c ∈ s.head?, isTokenChar c = false) (same : w.toList ++ r = v.toList ++ s) :
    w = v ∧ r = s := by
  obtain ⟨name, rest⟩ := run_unique isTokenChar w.toList v.toList r s (word_tokens w word)
    (word_tokens v word') ends ends' same
  exact ⟨String.toList_inj.mp name, rest⟩

theorem mark_no_token (optional : Bool) (l : List Char) :
    ∀ c ∈ (markChars optional ++ l).head?, isTokenChar c = false := by
  cases optional <;> simp [markChars] <;> decide

theorem arguments_unique (arguments arguments' : Option (List FlowType))
    (unambiguous : ∀ t ∈ arguments.getD [], t.Unambiguous)
    (printable : ∀ t ∈ arguments.getD [], t.Printable)
    (printable' : ∀ u ∈ arguments'.getD [], u.Printable) (r s : List Char) (stopped : Stops r)
    (stopped' : Stops s) (same : argumentChars arguments ++ r = argumentChars arguments' ++ s) :
    arguments.map (List.map undecoded) = arguments'.map (List.map undecoded) ∧ r = s := by
  cases arguments with
  | none =>
      cases arguments' with
      | none => exact ⟨rfl, same⟩
      | some us =>
          rw [show r = _ from same] at stopped
          cases stopped
  | some ts =>
      cases arguments' with
      | none =>
          rw [show s = _ from same.symm] at stopped'
          cases stopped'
      | some us =>
          simp only [argumentChars, List.cons_append, List.append_assoc, List.nil_append] at same
          obtain ⟨types, rest⟩ := types_unique ts us unambiguous printable printable' '>' (.inl rfl)
            r s (List.tail_eq_of_cons_eq same)
          exact ⟨congrArg some types, rest⟩

theorem arguments_no_name (arguments : Option (List FlowType)) (r : List Char) (stopped : Stops r) :
    ∀ c ∈ (argumentChars arguments ++ r).head?, isTokenChar c = false ∧ c ≠ '.' := by
  intro c first
  cases arguments with
  | some types =>
      cases first
      exact ⟨by decide, by decide⟩
  | none =>
      cases r with
      | nil => cases first
      | cons d r =>
          cases first
          rcases stop_cases c r stopped with rfl | rfl | rfl | rfl | rfl <;>
            exact ⟨by decide, by decide⟩

theorem segments_unique (ss ss' : List String) (words : ∀ s ∈ ss, isWord s = true)
    (words' : ∀ s ∈ ss', isWord s = true) (r r' : List Char)
    (ends : ∀ c ∈ r.head?, isTokenChar c = false ∧ c ≠ '.')
    (ends' : ∀ c ∈ r'.head?, isTokenChar c = false ∧ c ≠ '.')
    (same : (ss.flatMap fun u => '.' :: u.toList) ++ r =
      (ss'.flatMap fun u => '.' :: u.toList) ++ r') :
    ss = ss' ∧ r = r' := by
  have undotted (r : List Char) (ends : ∀ c ∈ r.head?, isTokenChar c = false ∧ c ≠ '.') :
      (∀ c ∈ r.head?, isTokenChar c = false) ∧ ¬ ['.'] <+: r := by
    refine ⟨fun c first => (ends c first).1, ?_⟩
    rintro ⟨l, rfl⟩
    exact (ends '.' rfl).2 rfl
  obtain ⟨names, rest⟩ := marked_items_unique ['.'] String.toList id
    (fun r => ∀ c ∈ r.head?, isTokenChar c = false) (by intro l c first; cases first; decide) r r'
    (undotted r ends) (undotted r' ends') ss ss'
    (fun w member v member' r s ends ends' same =>
      name_unique w v (words w member) (words' v member') r s ends ends' same) same
  exact ⟨by simpa using names, rest⟩

theorem segments_no_token (ss : List String) (r : List Char)
    (ends : ∀ c ∈ r.head?, isTokenChar c = false ∧ c ≠ '.') :
    ∀ c ∈ ((ss.flatMap fun u => '.' :: u.toList) ++ r).head?, isTokenChar c = false := by
  cases ss with
  | nil => exact fun c first => (ends c first).1
  | cons s ss =>
      intro c first
      cases first
      decide

theorem reference_unique (s s' : String) (ss ss' : List String)
    (arguments arguments' : Option (List FlowType)) (named : Named s ss) (named' : Named s' ss')
    (unambiguous : ∀ t ∈ arguments.getD [], t.Unambiguous)
    (printable : ∀ t ∈ arguments.getD [], t.Printable)
    (printable' : ∀ u ∈ arguments'.getD [], u.Printable) :
    Determined chars undecoded Stops (reference ⟨s :: ss⟩ arguments [])
      (reference ⟨s' :: ss'⟩ arguments' []) := by
  intro r r' stopped stopped' same
  simp only [chars_reference, List.append_assoc] at same
  have ends := arguments_no_name arguments r stopped
  have ends' := arguments_no_name arguments' r' stopped'
  obtain ⟨rfl, dotted⟩ := name_unique s s' named.1 named'.1 _ _ (segments_no_token ss _ ends)
    (segments_no_token ss' _ ends') same
  obtain ⟨rfl, listed⟩ := segments_unique ss ss' named.2.1 named'.2.1 _ _ ends ends' dotted
  obtain ⟨types, rest⟩ := arguments_unique arguments arguments' unambiguous printable printable' r
    r' stopped stopped' listed
  refine ⟨?_, rest⟩
  rw [undecoded, undecoded, undecoded_arguments_eq, undecoded_arguments_eq, types]

-- A reference is no fixed word with something else than a dot behind it.
theorem reference_no_fixed (s : String) (ss : List String) (arguments : Option (List FlowType))
    (named : Named s ss) (raw : String) (fixed : Fixed raw) (r l : List Char) (stopped : Stops r)
    (ends : ∀ c ∈ l.head?, isTokenChar c = false ∧ c ≠ '.') :
    (reference ⟨s :: ss⟩ arguments []).chars ++ r ≠ raw.toList ++ l := by
  intro same
  simp only [chars_reference, List.append_assoc] at same
  obtain ⟨name, rest⟩ := run_unique isTokenChar s.toList raw.toList _ l (word_tokens s named.1)
    (fixed_tokens raw fixed) (segments_no_token ss _ (arguments_no_name arguments r stopped))
    (fun c first => (ends c first).1) same
  obtain rfl := String.toList_inj.mp name
  cases ss with
  | cons u us => exact (ends '.' (by rw [← rest]; rfl)).2 rfl
  | nil =>
      rcases fixed with reserved | numeral
      · exact named.2.2 rfl reserved
      · exact absurd named.1 (by simp [numeral_no_word s numeral])

theorem array_no_fixed (element : FlowType) (raw : String) (fixed : Fixed raw) (r s : List Char)
    (stopped : Stops s) : (array element).chars ++ r ≠ raw.toList ++ s := by
  intro same
  rw [chars_array, List.append_assoc] at same
  obtain ⟨-, rest⟩ := run_unique isTokenChar "Array".toList raw.toList _ s
    (fixed_tokens "Array" (.inl (by decide))) (fixed_tokens raw fixed) (by simp; decide)
    (stop_no_token s stopped) same
  rw [← rest] at stopped
  cases stopped

theorem word_unique (t u : FlowType) (printable : t.Printable) (printable' : u.Printable)
    (unambiguous : ∀ p ∈ t.parts, p.Unambiguous) (formed : t.shape = some .word)
    (formed' : u.shape = some .word) : Determined chars undecoded Stops t u := by
  intro r s stopped stopped' same
  have afterArray (l : List Char) :
      ∀ c ∈ ('<' :: l).head?, isTokenChar c = false ∧ c ≠ '.' := by simp; decide
  have own := printable_own t printable
  have own' := printable_own u printable'
  rcases word_forms t own formed with ⟨first, others, arguments, rfl, named⟩ | ⟨element, rfl⟩ |
    ⟨raw, spelled, plain, fixed⟩
  · rcases word_forms u own' formed' with ⟨first', others', arguments', rfl, named'⟩ |
      ⟨element, rfl⟩ | ⟨raw, spelled, plain, fixed⟩
    · exact reference_unique first first' others others' arguments arguments' named named'
        unambiguous (fun p member => printable_part _ p printable member)
        (fun p member => printable_part _ p printable' member) r s stopped stopped' same
    · rw [chars_array, List.append_assoc] at same
      exact absurd same (reference_no_fixed first others arguments named "Array" (.inl (by decide))
        r _ stopped (afterArray _))
    · rw [spelled] at same
      exact absurd same (reference_no_fixed first others arguments named raw fixed r s stopped
        (arguments_no_name none s stopped'))
  · rcases word_forms u own' formed' with ⟨first, others, arguments, rfl, named⟩ |
      ⟨element', rfl⟩ | ⟨raw, spelled, plain, fixed⟩
    · rw [chars_array, List.append_assoc] at same
      exact absurd same.symm (reference_no_fixed first others arguments named "Array"
        (.inl (by decide)) s _ stopped' (afterArray _))
    · simp only [chars_array, List.append_assoc, List.cons_append, List.nil_append] at same
      obtain ⟨type, rest⟩ := unambiguous element (List.mem_singleton.mpr rfl) element'
        (printable_part _ element' printable' (List.mem_singleton.mpr rfl)) ('>' :: r) ('>' :: s)
        rfl rfl (List.tail_eq_of_cons_eq (List.append_cancel_left same))
      refine ⟨?_, List.tail_eq_of_cons_eq rest⟩
      rw [undecoded, undecoded, type]
    · rw [spelled] at same
      exact absurd same (array_no_fixed element raw fixed r s stopped')
  · rcases word_forms u own' formed' with ⟨first, others, arguments, rfl, named⟩ |
      ⟨element, rfl⟩ | ⟨raw', spelled', plain', fixed'⟩
    · rw [spelled] at same
      exact absurd same.symm (reference_no_fixed first others arguments named raw fixed s r stopped'
        (arguments_no_name none r stopped))
    · rw [spelled] at same
      exact absurd same.symm (array_no_fixed element raw fixed s r stopped)
    · rw [spelled, spelled'] at same
      obtain ⟨words, rest⟩ := run_unique isTokenChar raw.toList raw'.toList r s
        (fixed_tokens raw fixed) (fixed_tokens raw' fixed') (stop_no_token r stopped)
        (stop_no_token s stopped') same
      exact ⟨by rw [plain, plain', String.toList_inj.mp words], rest⟩

theorem tuple_unique (ts us : List FlowType) (unambiguous : ∀ t ∈ ts, t.Unambiguous)
    (printable : ∀ t ∈ ts, t.Printable) (printable' : ∀ u ∈ us, u.Printable) :
    Determined chars undecoded Stops (tuple ts) (tuple us) := by
  intro r s _ _ same
  simp only [chars_tuple, List.cons_append, List.append_assoc, List.nil_append] at same
  obtain ⟨types, rest⟩ := types_unique ts us unambiguous printable printable' ']' (.inr rfl) r s
    (List.tail_eq_of_cons_eq same)
  refine ⟨?_, rest⟩
  rw [undecoded, undecoded, undecoded_all_eq, undecoded_all_eq, types]

end FlowType

end FlowDefs
