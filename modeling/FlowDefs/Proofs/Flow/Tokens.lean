import FlowDefs.Proofs.Flow.Layout
set_option autoImplicit false

namespace FlowDefs

open Text

-- What may follow a type: the end, a separator, a closing bracket or a space.
def stops : List Char → Bool
  | [] => true
  | c :: _ => [',', '>', ']', ')', ' '].contains c

-- The same where the type is no member of a union that goes on.
def closes (r : List Char) : Bool := stops r && !bar.isPrefixOf r

def Stops (r : List Char) : Prop := stops r = true

def Closes (r : List Char) : Prop := closes r = true

inductive Shape where
  | word
  | quoted
  | bracket
  | brace
  | signature
deriving DecidableEq

def isTokenChar (c : Char) : Bool := isWordChar c || c = '-'

-- The first character of a type gives its form away, unless it is a union.
def shapeOf? (c : Char) : Option Shape :=
  if isTokenChar c then some .word
  else if c = '"' ∨ c = '\'' then some .quoted
  else if c = '[' then some .bracket
  else if c = '\x7b' then some .brace
  else if c = '(' ∨ c = '<' then some .signature
  else none

theorem closes_stops (r : List Char) (closed : Closes r) : Stops r := by
  unfold Closes closes at closed
  exact (Bool.and_eq_true_iff.mp closed).1

theorem closes_no_bar (r : List Char) (closed : Closes r) : ¬ bar <+: r := by
  unfold Closes closes at closed
  intro goesOn
  rw [List.isPrefixOf_iff_prefix.mpr goesOn, Bool.not_true, Bool.and_false] at closed
  cases closed

theorem stop_cases (c : Char) (r : List Char) (stopped : Stops (c :: r)) :
    c = ',' ∨ c = '>' ∨ c = ']' ∨ c = ')' ∨ c = ' ' := by
  simpa [Stops, stops] using stopped

theorem stop_no_shape (c : Char) (r : List Char) (stopped : Stops (c :: r)) :
    shapeOf? c = none := by
  rcases stop_cases c r stopped with rfl | rfl | rfl | rfl | rfl <;> decide

theorem token_shape (c : Char) (token : isTokenChar c = true) : shapeOf? c = some .word := by
  rw [shapeOf?, if_pos token]

theorem stop_no_token (r : List Char) (stopped : Stops r) :
    ∀ c ∈ r.head?, isTokenChar c = false := by
  intro c first
  cases r with
  | nil => cases first
  | cons d r =>
      cases first
      cases token : isTokenChar c with
      | false => rfl
      | true =>
          have none := stop_no_shape c r stopped
          rw [token_shape c token] at none
          cases none

theorem word_char_token (c : Char) (word : isWordChar c = true) : isTokenChar c = true := by
  simp [isTokenChar, word]

-- A text that opens with the first character of a type.
def Opens (l : List Char) : Prop := ∃ c cs, l = c :: cs ∧ (shapeOf? c).isSome = true

theorem opens_append (l m : List Char) (opened : Opens l) : Opens (l ++ m) := by
  obtain ⟨c, cs, rfl, shape⟩ := opened
  exact ⟨c, cs ++ m, rfl, shape⟩

theorem opens_no_stop (l r : List Char) (opened : Opens l) (stopped : Stops r) : l ≠ r := by
  rintro rfl
  obtain ⟨c, cs, rfl, shape⟩ := opened
  rw [stop_no_shape c cs stopped] at shape
  cases shape

theorem opens_no_dot (l r : List Char) (opened : Opens l) : l ≠ '.' :: r := by
  rintro rfl
  obtain ⟨c, cs, same, shape⟩ := opened
  cases same
  exact absurd shape (by decide)

-- Words, numerals and quoted texts.

theorem word_cons (w : String) (word : isWord w = true) :
    ∃ c cs, w.toList = c :: cs ∧ c.isDigit = false ∧ ∀ d ∈ c :: cs, isWordChar d = true := by
  unfold isWord at word
  split at word
  · cases word
  · next c cs spelled =>
      obtain ⟨start, all⟩ := Bool.and_eq_true_iff.mp word
      exact ⟨c, cs, spelled, by simpa using start, List.all_eq_true.mp all⟩

theorem word_tokens (w : String) (word : isWord w = true) :
    ∀ c ∈ w.toList, isTokenChar c = true := by
  obtain ⟨c, cs, spelled, -, all⟩ := word_cons w word
  rw [spelled]
  exact fun d member => word_char_token d (all d member)

theorem word_opens (w : String) (word : isWord w = true) : Opens w.toList := by
  obtain ⟨c, cs, spelled, -, all⟩ := word_cons w word
  have first := token_shape c (word_char_token c (all c List.mem_cons_self))
  exact ⟨c, cs, spelled, by rw [first]; rfl⟩

theorem digit_word_char (c : Char) (digit : c.isDigit = true) : isWordChar c = true := by
  simp [isWordChar, Char.isAlphanum, digit]

theorem numeral_tokens (raw : String) (numeral : isNumeral raw = true) :
    (∃ c cs, raw.toList = c :: cs ∧ (c = '-' ∨ c.isDigit = true)) ∧
      ∀ d ∈ raw.toList, isTokenChar d = true := by
  have digit (d : Char) (digit : d.isDigit = true) : isTokenChar d = true :=
    word_char_token d (digit_word_char d digit)
  unfold isNumeral at numeral
  split at numeral
  · next cs spelled =>
      obtain ⟨-, all⟩ := Bool.and_eq_true_iff.mp numeral
      rw [spelled]
      refine ⟨⟨_, cs, rfl, .inl rfl⟩, ?_⟩
      intro d member
      rcases List.mem_cons.mp member with rfl | later
      · decide
      · exact digit d (List.all_eq_true.mp all d later)
  · next cs unsigned =>
      obtain ⟨nonempty, all⟩ := Bool.and_eq_true_iff.mp numeral
      refine ⟨?_, fun d member => digit d (List.all_eq_true.mp all d member)⟩
      cases spelled : raw.toList with
      | nil => rw [spelled] at nonempty; cases nonempty
      | cons c cs =>
          refine ⟨c, cs, rfl, .inr (List.all_eq_true.mp all c ?_)⟩
          rw [spelled]
          exact List.mem_cons_self

theorem quoted_cons (raw : String) (quoted : isQuoted raw = true) :
    ∃ q inner, raw.toList = q :: (inner ++ [q]) ∧ (q = '"' ∨ q = '\'') ∧
      ∀ c ∈ inner, (c != q) = true := by
  unfold isQuoted at quoted
  split at quoted
  · cases quoted
  · next q cs spelled =>
      obtain ⟨⟨quote, last⟩, absent⟩ := by simpa using quoted
      obtain ⟨inner, rfl⟩ := List.getLast?_eq_some_iff.mp last
      refine ⟨q, inner, spelled, quote, ?_⟩
      intro c member
      simp only [List.dropLast_concat] at absent
      simpa using fun same : c = q => absent (same ▸ member)

theorem quoted_opens (raw : String) (quoted : isQuoted raw = true) :
    ∃ c cs, raw.toList = c :: cs ∧ shapeOf? c = some .quoted := by
  obtain ⟨q, inner, spelled, quote, -⟩ := quoted_cons raw quoted
  refine ⟨q, _, spelled, ?_⟩
  rcases quote with rfl | rfl <;> decide

theorem quoted_unique (raw raw' : String) (quoted : isQuoted raw = true)
    (quoted' : isQuoted raw' = true) (r s : List Char)
    (same : raw.toList ++ r = raw'.toList ++ s) : raw = raw' ∧ r = s := by
  obtain ⟨q, inner, spelled, -, inside⟩ := quoted_cons raw quoted
  obtain ⟨q', inner', spelled', -, inside'⟩ := quoted_cons raw' quoted'
  rw [spelled, spelled'] at same
  simp only [List.cons_append, List.append_assoc, List.nil_append] at same
  obtain ⟨rfl, same⟩ := List.cons_eq_cons.mp same
  obtain ⟨rfl, rest⟩ := run_unique (· != q) inner inner' (q :: r) (q :: s) inside inside'
    (by simp) (by simp) same
  refine ⟨String.toList_inj.mp (spelled.trans spelled'.symm), List.tail_eq_of_cons_eq rest⟩

end FlowDefs
