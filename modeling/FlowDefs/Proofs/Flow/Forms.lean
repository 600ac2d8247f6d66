import FlowDefs.Proofs.Flow.Layout
import FlowDefs.Proofs.Flow.Tokens
set_option autoImplicit false

namespace FlowDefs

open Text

namespace FlowType

-- A union begins like its first member.
def shape : FlowType → Option Shape
  | .union _ => none
  | .literal (.string _ _) => some .quoted
  | .tuple _ => some .bracket
  | .object _ _ _ => some .brace
  | .function _ => some .signature
  | .primitive _ | .literal _ | .reference _ _ _ | .array _ => some .word

theorem quoted_form (t : FlowType) (formed : t.shape = some .quoted) :
    ∃ value raw, t = literal (.string value raw) := by
  cases t with
  | literal value =>
      cases value with
      | string value raw => exact ⟨value, raw, rfl⟩
      | _ => cases formed
  | _ => cases formed

theorem bracket_form (t : FlowType) (formed : t.shape = some .bracket) : ∃ ts, t = tuple ts := by
  cases t with
  | tuple ts => exact ⟨ts, rfl⟩
  | literal value => cases value <;> cases formed
  | _ => cases formed

theorem brace_form (t : FlowType) (formed : t.shape = some .brace) :
    ∃ properties exact inexact, t = object properties exact inexact := by
  cases t with
  | object properties exact inexact => exact ⟨properties, exact, inexact, rfl⟩
  | literal value => cases value <;> cases formed
  | _ => cases formed

theorem signature_form (t : FlowType) (formed : t.shape = some .signature) :
    ∃ s, t = function s := by
  cases t with
  | function s => exact ⟨s, rfl⟩
  | literal value => cases value <;> cases formed
  | _ => cases formed

theorem union_form (t : FlowType) (formed : t.shape = none) : ∃ members, t = union members := by
  cases t with
  | union members => exact ⟨members, rfl⟩
  | literal value => cases value <;> cases formed
  | _ => cases formed

-- The type that is spelled as one fixed word or a numeral.
def plainType (raw : String) : FlowType :=
  match [Primitive.any, .mixed, .empty, .void, .boolean, .number, .string].find?
      (fun word => word.text = raw) with
  | some word => .primitive word
  | none =>
    if raw = "null" then .literal .null
    else if raw = "true" then .literal (.boolean true raw)
    else if raw = "false" then .literal (.boolean false raw)
    else .literal (.number .zero raw)

-- The words that are no names: the reserved ones and numerals.
def Fixed (raw : String) : Prop := raw ∈ reservedNames ∨ isNumeral raw = true

-- A name that can be told from the fixed words, with the segments behind its first.
def Named (first : String) (others : List String) : Prop :=
  isWord first = true ∧ (∀ s ∈ others, isWord s = true) ∧ (others = [] → first ∉ reservedNames)

theorem fixed_tokens (raw : String) (fixed : Fixed raw) :
    ∀ c ∈ raw.toList, isTokenChar c = true := by
  have reserved : ∀ w ∈ reservedNames, w.toList.all isTokenChar = true := by decide
  exact fixed.elim (fun member => List.all_eq_true.mp (reserved raw member)) fun numeral =>
    (numeral_tokens raw numeral).2

theorem fixed_begins (raw : String) (fixed : Fixed raw) :
    ∃ c cs, raw.toList = c :: cs ∧ isTokenChar c = true := by
  cases spelled : raw.toList with
  | cons c cs =>
      exact ⟨c, cs, rfl, fixed_tokens raw fixed c (by rw [spelled]; exact List.mem_cons_self)⟩
  | nil =>
      have empty : raw = "" := String.toList_inj.mp spelled
      subst empty
      rcases fixed with reserved | numeral
      · exact absurd reserved (by decide)
      · exact absurd numeral (by decide)

theorem numeral_no_word (raw : String) (numeral : isNumeral raw = true) : isWord raw = false := by
  cases word : isWord raw with
  | false => rfl
  | true =>
      obtain ⟨c, cs, spelled, start, all⟩ := word_cons raw word
      obtain ⟨⟨d, ds, spelled', kind⟩, -⟩ := numeral_tokens raw numeral
      obtain ⟨rfl, -⟩ := List.cons_eq_cons.mp (spelled.symm.trans spelled')
      rcases kind with rfl | digit
      · exact absurd (all '-' List.mem_cons_self) (by decide)
      · rw [digit] at start
        cases start

theorem plain_number (raw : String) (numeral : isNumeral raw = true) :
    plainType raw = .literal (.number .zero raw) := by
  have differs (w : String) (other : isNumeral w = false) : raw ≠ w := by
    rintro rfl
    rw [numeral] at other
    cases other
  have none : [Primitive.any, .mixed, .empty, .void, .boolean, .number, .string].find?
      (fun word => decide (word.text = raw)) = none := by
    rw [List.find?_eq_none]
    intro word _
    have other : isNumeral word.text = false := by cases word <;> decide
    simpa using (differs word.text other).symm
  rw [plainType, none]
  simp [differs "null" (by decide), differs "true" (by decide), differs "false" (by decide)]

-- What begins with a word.
theorem word_forms (t : FlowType) (own : t.WellSpelled) (formed : t.shape = some .word) :
    (∃ first others arguments, t = .reference ⟨first :: others⟩ arguments [] ∧ Named first others) ∨
      (∃ element, t = .array element) ∨
      (∃ raw, t.chars = raw.toList ∧ t.undecoded = plainType raw ∧ Fixed raw) := by
  cases t with
  | primitive word =>
      refine .inr (.inr ⟨word.text, rfl, ?_, ?_⟩)
      · cases word <;> rfl
      · cases word <;> exact .inl (by decide)
  | literal value =>
      refine .inr (.inr ⟨value.text, rfl, ?_⟩)
      cases value with
      | null => exact ⟨rfl, .inl (by decide)⟩
      | boolean value raw =>
          have spelled : raw = if value then "true" else "false" := own
          subst spelled
          cases value <;> exact ⟨rfl, .inl (by decide)⟩
      | number value raw => exact ⟨(plain_number raw own).symm, .inr own⟩
      | string => cases formed
  | reference name arguments comments =>
      obtain ⟨rfl, nonempty, words, free⟩ := own
      obtain ⟨segments⟩ := name
      cases segments with
      | nil => exact absurd rfl nonempty
      | cons first others =>
          refine .inl ⟨first, others, arguments, rfl, words first List.mem_cons_self,
            fun s member => words s (List.mem_cons_of_mem first member), ?_⟩
          rintro rfl reserved
          exact free first reserved rfl
  | array element => exact .inr (.inl ⟨element, rfl⟩)
  | union => cases formed
  | tuple => cases formed
  | function => cases formed
  | object => cases formed

-- What stands behind the first word of a type is not more of the word.
theorem word_split (t : FlowType) (own : t.WellSpelled) (word : t.shape = some .word) :
    ∃ c cs l, t.chars = c :: cs ++ l ∧ (∀ d ∈ c :: cs, isTokenChar d = true) ∧
      ∀ d ∈ l.head?, d = '.' ∨ d = '<' := by
  rcases word_forms t own word with ⟨first, others, arguments, rfl, named⟩ | ⟨element, rfl⟩ |
    ⟨raw, spelled, -, fixed⟩
  · obtain ⟨c, cs, spelled, -, -⟩ := word_cons first named.1
    refine ⟨c, cs, _, by rw [chars_reference, spelled], ?_, ?_⟩
    · rw [← spelled]
      exact word_tokens first named.1
    · cases others with
      | cons => simp
      | nil => cases arguments <;> simp [argumentChars]
  · exact ⟨_, _, _, chars_array element, fixed_tokens "Array" (.inl (by decide)), by simp⟩
  · obtain ⟨c, cs, split, -⟩ := fixed_begins raw fixed
    refine ⟨c, cs, [], by rw [spelled, split, List.append_nil], ?_, by simp⟩
    rw [← split]
    exact fixed_tokens raw fixed

theorem chars_shape (t : FlowType) (own : t.WellSpelled) (k : Shape) (formed : t.shape = some k) :
    ∃ c cs, t.chars = c :: cs ∧ shapeOf? c = some k := by
  cases k with
  | word =>
      obtain ⟨c, cs, l, spelled, all, -⟩ := word_split t own formed
      exact ⟨c, cs ++ l, spelled, token_shape c (all c List.mem_cons_self)⟩
  | quoted =>
      obtain ⟨value, raw, rfl⟩ := quoted_form t formed
      exact quoted_opens raw own
  | bracket =>
      obtain ⟨ts, rfl⟩ := bracket_form t formed
      exact ⟨_, _, chars_tuple ts, by decide⟩
  | brace =>
      obtain ⟨properties, exact, inexact, rfl⟩ := brace_form t formed
      exact ⟨_, _, chars_object properties exact inexact, by decide⟩
  | signature =>
      obtain ⟨s, rfl⟩ := signature_form t formed
      rw [chars_function]
      cases s.typeParams with
      | none => exact ⟨_, _, rfl, by decide⟩
      | some => exact ⟨_, _, rfl, by decide⟩

theorem member_chars_shape (t : FlowType) (own : t.WellSpelled) (k : Shape)
    (formed : t.shape = some k) : ∃ c cs, t.memberChars = c :: cs ∧ shapeOf? c = some k := by
  cases function : t.isFunction with
  | false =>
      rw [memberChars, function]
      exact chars_shape t own k formed
  | true =>
      cases t with
      | function signature =>
          cases formed
          exact ⟨'(', _, rfl, by decide⟩
      | _ => cases function

theorem member_chars_plain (t : FlowType) (k : Shape) (formed : t.shape = some k)
    (other : k ≠ .signature) : t.memberChars = t.chars := by
  cases t with
  | function => exact absurd (Option.some.inj formed).symm other
  | _ => rfl

theorem printable_own (t : FlowType) (printable : t.Printable) : t.WellSpelled := by
  cases printable with
  | intro t own parts => exact own

theorem printable_part (t p : FlowType) (printable : t.Printable) (member : p ∈ t.parts) :
    p.Printable := by
  cases printable with
  | intro t own parts => exact parts p member

theorem shape_of_member (members : List FlowType) (own : (union members).WellSpelled) (m : FlowType)
    (member : m ∈ members) : ∃ k, m.shape = some k := by
  cases formed : m.shape with
  | some k => exact ⟨k, rfl⟩
  | none =>
      obtain ⟨inner, rfl⟩ := union_form m formed
      exact absurd member (own.2 inner)

theorem union_cons (members : List FlowType) (own : (union members).WellSpelled) :
    ∃ m n ms, members = m :: n :: ms := by
  rcases members with _ | ⟨m, _ | ⟨n, ms⟩⟩
  · exact absurd own.1 (by simp)
  · exact absurd own.1 (by simp)
  · exact ⟨m, n, ms, rfl⟩

theorem member_opens (t : FlowType) (own : t.WellSpelled) (k : Shape) (formed : t.shape = some k) :
    Opens t.memberChars := by
  obtain ⟨c, cs, spelled, shape⟩ := member_chars_shape t own k formed
  exact ⟨c, cs, spelled, by rw [shape]; rfl⟩

theorem chars_opens (t : FlowType) (printable : t.Printable) : Opens t.chars := by
  have own := printable_own t printable
  cases formed : t.shape with
  | some k =>
      obtain ⟨c, cs, spelled, shape⟩ := chars_shape t own k formed
      exact ⟨c, cs, spelled, by rw [shape]; rfl⟩
  | none =>
      obtain ⟨members, rfl⟩ := union_form t formed
      obtain ⟨m, n, ms, rfl⟩ := union_cons members own
      obtain ⟨k, formed⟩ := shape_of_member _ own m List.mem_cons_self
      rw [chars_union]
      refine opens_append _ _ (member_opens m ?_ k formed)
      exact printable_own m (printable_part _ m printable List.mem_cons_self)

theorem word_no_label (t : FlowType) (own : t.WellSpelled) (formed : t.shape = some .word)
    (w : String) (word : isWord w = true) (r : List Char) (stopped : Stops r) (c : Char)
    (l : List Char) (label : c = ':' ∨ c = '?') : t.chars ++ r ≠ w.toList ++ c :: l := by
  obtain ⟨d, ds, suffix, spelled, tokens, behind⟩ := word_split t own formed
  intro same
  rw [spelled, List.append_assoc] at same
  have ends : ∀ e ∈ (suffix ++ r).head?, isTokenChar e = false ∧ e ≠ c := by
    intro e first
    cases suffix with
    | nil =>
        refine ⟨stop_no_token r stopped e first, ?_⟩
        rintro rfl
        cases r with
        | nil => cases first
        | cons f r =>
            cases first
            rcases label with rfl | rfl <;> exact absurd stopped (by simp [Stops, stops])
    | cons f suffix =>
        cases first
        rcases behind e rfl with rfl | rfl <;> rcases label with rfl | rfl <;> decide
  have other : isTokenChar c = false := by rcases label with rfl | rfl <;> decide
  obtain ⟨-, rest⟩ := run_unique isTokenChar _ _ (suffix ++ r) (c :: l) tokens
    (word_tokens w word) (fun e first => (ends e first).1)
    (by simpa using other) same
  exact (ends c (by rw [rest]; rfl)).2 rfl

theorem shape_no_label (text : List Char) (k : Shape) (other : k ≠ .word)
    (begins : ∃ c cs, text = c :: cs ∧ shapeOf? c = some k) (w : String) (word : isWord w = true)
    (r l : List Char) : text ++ r ≠ w.toList ++ l := by
  obtain ⟨c, cs, rfl, shape⟩ := begins
  obtain ⟨d, ds, spelled, -, all⟩ := word_cons w word
  rw [spelled]
  intro same
  obtain ⟨rfl, -⟩ := List.cons_eq_cons.mp same
  rw [token_shape c (word_char_token c (all c List.mem_cons_self))] at shape
  exact other (Option.some.inj shape).symm

-- The text of a type is never the name of a parameter with the mark behind it.
theorem no_label (t : FlowType) (printable : t.Printable) (w : String) (word : isWord w = true)
    (r : List Char) (stopped : Stops r) (c : Char) (l : List Char) (label : c = ':' ∨ c = '?') :
    t.chars ++ r ≠ w.toList ++ c :: l := by
  have own := printable_own t printable
  cases formed : t.shape with
  | some k =>
      by_cases plain : k = .word
      · subst plain
        exact word_no_label t own formed w word r stopped c l label
      · exact shape_no_label t.chars k plain (chars_shape t own k formed) w word r (c :: l)
  | none =>
      obtain ⟨members, rfl⟩ := union_form t formed
      obtain ⟨m, n, ms, rfl⟩ := union_cons members own
      have first := printable_own m (printable_part _ m printable List.mem_cons_self)
      obtain ⟨k, formed⟩ := shape_of_member _ own m List.mem_cons_self
      rw [chars_union, List.append_assoc]
      by_cases plain : k = .word
      · subst plain
        rw [member_chars_plain m .word formed (by decide)]
        exact word_no_label m first formed w word _ (by rfl) c l label
      · exact shape_no_label m.memberChars k plain (member_chars_shape m first k formed) w word _ _

end FlowType

end FlowDefs
