import FlowDefs.Number.Reading
import FlowDefs.Proofs.Number.Rounding
import Mathlib.Data.List.Forall2
import Mathlib.Data.List.Induction
import Mathlib.Data.Nat.Digits.Defs
set_option autoImplicit false

namespace FlowDefs.Number

def bare (text : String) : List Char := text.toList.filter (· ≠ '_')

-- The digits past nine are letters, in either case.
def IsDigit (radix : Nat) (c : Char) (d : Nat) : Prop :=
  d < radix ∧ (c = d.digitChar ∨ c = d.digitChar.toUpper)

instance (radix : Nat) (c : Char) (d : Nat) : Decidable (IsDigit radix c d) :=
  inferInstanceAs (Decidable (d < radix ∧ (c = d.digitChar ∨ c = d.digitChar.toUpper)))

-- The last digit counts ones, the one before it counts the radix, and so on.
def Denotes (radix : Nat) (digits : List Char) (n : Nat) : Prop :=
  ∃ values, List.Forall₂ (IsDigit radix) digits.reverse values ∧ Nat.ofDigits radix values = n

inductive Marks : List Char → Nat → Prop where
  | hexadecimal (mark : Char) (letter : mark = 'x' ∨ mark = 'X') : Marks ['0', mark] 16
  | octal (mark : Char) (letter : mark = 'o' ∨ mark = 'O') : Marks ['0', mark] 8
  | binary (mark : Char) (letter : mark = 'b' ∨ mark = 'B') : Marks ['0', mark] 2

-- A zero before other digits makes them octal where all of them can be.
inductive Opens : List Char → Nat → Prop where
  | marked (opening : List Char) (radix : Nat) (marks : Marks opening radix) : Opens opening radix
  | zero : Opens ['0'] 8

-- Reading the digit `d` after digits that come to `m`.
structure ExactStep (radix m d : Nat) : Prop where
  small : m * radix + d ≤ 2 ^ 53
  product : (Binary64.whole m).times radix = .whole (m * radix)
  sum : (Binary64.whole (m * radix)).plus d = .whole (m * radix + d)

-- The value is reached through the whole numbers that the digits so far denote. Accumulating counts
-- a letter in either case, so the digits are those of the text.
structure ReadExactly (radix : Nat) (text : String) (digits : List Char) (n : Nat) : Prop where
  result : readLiteral text = some (.whole n)
  steps : ∀ before c after, digits = before ++ c :: after →
    ∃ m d, Denotes radix before m ∧ IsDigit radix c d ∧
      accumulate radix .zero before = some (.whole m) ∧ ExactStep radix m d ∧
      readLiteral text = accumulate radix (.whole (m * radix + d)) after

theorem marks_radix (opening : List Char) (radix : Nat) (marks : Marks opening radix) :
    radix ≤ 16 := by
  cases marks <;> decide

theorem opens_radix (opening : List Char) (radix : Nat) (opens : Opens opening radix) :
    radix ≤ 16 := by
  cases opens with
  | marked _ _ marks => exact marks_radix opening radix marks
  | zero => decide

theorem digit_value_within (radix : Nat) (c : Char) (few : radix ≤ 16) :
    digitValue? radix c = (digitValue? 16 c).filter (· < radix) := by
  simp only [digitValue?, Option.filter_filter]
  congr 1
  funext d
  rw [← Bool.decide_and, decide_eq_decide]
  omega

theorem digit_letters : ∀ d < 16, digitValue? 16 d.digitChar = some d ∧
    digitValue? 16 d.digitChar.toUpper = some d := by
  decide +kernel

theorem ascii_checked (P : Char → Prop) (table : ∀ k < 128, P (Char.ofNat k)) (c : Char)
    (ascii : c.toNat < 128) : P c := by
  have checked := table c.toNat ascii
  rwa [Char.ofNat_toNat] at checked

theorem letter_digits (c : Char) (ascii : c.toNat < 128) :
    ∀ d ∈ digitValue? 16 c, IsDigit 16 c d :=
  ascii_checked (fun c => ∀ d ∈ digitValue? 16 c, IsDigit 16 c d) (by decide +kernel) c ascii

theorem digit_ascii (c : Char) (d : Nat) (digit : digitValue? 16 c = some d) : c.toNat < 128 := by
  have upTo (last : Char) (ascii : last.toNat < 128) (below : c ≤ last) : c.toNat < 128 :=
    Nat.lt_of_le_of_lt below ascii
  simp only [digitValue?] at digit
  split at digit
  · next range => exact upTo '9' (by decide) range.2
  · split at digit
    · next range => exact upTo 'f' (by decide) range.2
    · split at digit
      · next range => exact upTo 'F' (by decide) range.2
      · cases digit

theorem digit_value_iff (radix : Nat) (c : Char) (d : Nat) (few : radix ≤ 16) :
    digitValue? radix c = some d ↔ IsDigit radix c d := by
  rw [digit_value_within radix c few, Option.filter_eq_some_iff, decide_eq_true_eq]
  constructor
  · rintro ⟨value, small⟩
    exact ⟨small, (letter_digits c (digit_ascii c d value) d value).2⟩
  · rintro ⟨small, rfl | rfl⟩
    · exact ⟨(digit_letters d (by omega)).1, small⟩
    · exact ⟨(digit_letters d (by omega)).2, small⟩

theorem digit_value_none_iff (radix : Nat) (c : Char) (few : radix ≤ 16) :
    digitValue? radix c = none ↔ ∀ d, ¬ IsDigit radix c d := by
  simp only [Option.eq_none_iff_forall_ne_some, ne_eq, digit_value_iff radix c _ few]

theorem digit_value_lower (radix : Nat) (c : Char) (few : radix ≤ 16) :
    digitValue? radix c.toLower = digitValue? radix c := by
  rw [digit_value_within radix _ few, digit_value_within radix c few]
  by_cases ascii : c.toNat < 128
  · rw [ascii_checked (fun c => digitValue? 16 c.toLower = digitValue? 16 c) (by decide +kernel) c
      ascii]
  · have lower : c.toLower = c := dif_neg fun upper =>
      ascii (Nat.lt_of_le_of_lt upper.2 (by decide))
    rw [lower]

theorem octal_digit (c : Char) (d : Nat) (digit : IsDigit 8 c d) :
    isOctalDigit c.toLower = true := by
  have table : ∀ d < 8, isOctalDigit d.digitChar.toLower = true ∧
      isOctalDigit d.digitChar.toUpper.toLower = true := by decide +kernel
  obtain ⟨small, rfl | rfl⟩ := digit
  · exact (table d small).1
  · exact (table d small).2

section Denotation

variable (radix : Nat)

theorem denotes_nothing (n : Nat) : Denotes radix [] n ↔ n = 0 := by
  simp [Denotes, eq_comm]

theorem denotes_snoc (before : List Char) (c : Char) (n : Nat) :
    Denotes radix (before ++ [c]) n ↔
      ∃ m d, Denotes radix before m ∧ IsDigit radix c d ∧ n = m * radix + d := by
  rw [Denotes, List.reverse_append, List.reverse_singleton, List.singleton_append]
  constructor
  · rintro ⟨values, spelled, rfl⟩
    obtain ⟨d, rest, digit, earlier, rfl⟩ := List.forall₂_cons_left_iff.mp spelled
    refine ⟨_, d, ⟨rest, earlier, rfl⟩, digit, ?_⟩
    rw [Nat.ofDigits_cons, Nat.add_comm, Nat.mul_comm]
  · rintro ⟨_, d, ⟨rest, spelled, rfl⟩, digit, rfl⟩
    refine ⟨d :: rest, .cons digit spelled, ?_⟩
    rw [Nat.ofDigits_cons, Nat.add_comm, Nat.mul_comm]

theorem denoted_digits (digits : List Char) (n : Nat) (denotes : Denotes radix digits n) :
    ∀ c ∈ digits, ∃ d, IsDigit radix c d := by
  induction digits using List.reverseRecOn generalizing n with
  | nil => exact List.forall_mem_nil _
  | append_singleton before c ih =>
      obtain ⟨m, d, earlier, digit, -⟩ := (denotes_snoc radix before c n).mp denotes
      exact List.forall_mem_append.mpr ⟨ih m earlier, List.forall_mem_singleton.mpr ⟨d, digit⟩⟩

-- A radix with a digit is not zero.
theorem leading_small (m d : Nat) (c : Char) (digit : IsDigit radix c d) : m ≤ m * radix + d :=
  Nat.le_add_right_of_le (Nat.le_mul_of_pos_right m (Nat.zero_lt_of_lt digit.1))

theorem denotes_prefix (before after : List Char) (n : Nat)
    (denotes : Denotes radix (before ++ after) n) : ∃ m ≤ n, Denotes radix before m := by
  induction after using List.reverseRecOn generalizing n with
  | nil => exact ⟨n, Nat.le_refl n, by rwa [List.append_nil] at denotes⟩
  | append_singleton after c ih =>
      rw [← List.append_assoc] at denotes
      obtain ⟨most, d, earlier, digit, rfl⟩ := (denotes_snoc radix _ c n).mp denotes
      obtain ⟨m, small, found⟩ := ih most earlier
      exact ⟨m, Nat.le_trans small (leading_small radix most d c digit), found⟩

end Denotation

section Accumulation

variable (radix : Nat)

theorem accumulate_append (acc : Binary64) (before after : List Char) :
    accumulate radix acc (before ++ after) =
      (accumulate radix acc before).bind fun reached => accumulate radix reached after := by
  induction before generalizing acc with
  | nil => rfl
  | cons c before ih =>
      rw [List.cons_append, accumulate, accumulate]
      cases digitValue? radix c with
      | none => rfl
      | some d => exact ih _

theorem step_exact (m d : Nat) (small : m * radix + d ≤ 2 ^ 53) : ExactStep radix m d :=
  ⟨small, Binary64.whole_times m radix (Nat.le_of_add_right_le small),
    Binary64.whole_plus (m * radix) d small⟩

theorem accumulate_step (few : radix ≤ 16) (m d : Nat) (c : Char) (after : List Char)
    (digit : IsDigit radix c d) (step : ExactStep radix m d) :
    accumulate radix (.whole m) (c :: after) =
      accumulate radix (.whole (m * radix + d)) after := by
  rw [accumulate, (digit_value_iff radix c d few).mpr digit]
  change accumulate radix (((Binary64.whole m).times radix).plus d) after = _
  rw [step.product, step.sum]

theorem accumulate_exact (few : radix ≤ 16) (digits : List Char) (n : Nat)
    (denotes : Denotes radix digits n) (small : n ≤ 2 ^ 53) :
    accumulate radix .zero digits = some (.whole n) := by
  induction digits using List.reverseRecOn generalizing n with
  | nil =>
      rw [(denotes_nothing radix n).mp denotes]
      exact congrArg some Binary64.whole_zero.symm
  | append_singleton before c ih =>
      obtain ⟨m, d, earlier, digit, rfl⟩ := (denotes_snoc radix before c n).mp denotes
      have before_small := Nat.le_trans (leading_small radix m d c digit) small
      rw [accumulate_append, ih m earlier before_small, Option.bind_some,
        accumulate_step radix few m d c [] digit (step_exact radix m d small), accumulate]

theorem accumulate_none_iff (acc : Binary64) (digits : List Char) :
    accumulate radix acc digits = none ↔ ∃ c ∈ digits, digitValue? radix c = none := by
  induction digits generalizing acc with
  | nil => simp [accumulate]
  | cons c digits ih =>
      rw [accumulate, List.exists_mem_cons_iff]
      cases found : digitValue? radix c with
      | none => simp
      | some d => simpa using ih _

theorem accumulate_lower (few : radix ≤ 16) (acc : Binary64) (digits : List Char) :
    accumulate radix acc (digits.map Char.toLower) = accumulate radix acc digits := by
  induction digits generalizing acc with
  | nil => rfl
  | cons c digits ih =>
      simp only [List.map_cons, accumulate, digit_value_lower radix c few, ih]

theorem read_radix_lower (few : radix ≤ 16) (digits : List Char) :
    readRadix radix (digits.map Char.toLower) = readRadix radix digits := by
  cases digits with
  | nil => rfl
  | cons c digits => exact accumulate_lower radix few .zero (c :: digits)

theorem read_radix_nonempty (digits : List Char) (nonempty : digits ≠ []) :
    readRadix radix digits = accumulate radix .zero digits := by
  cases digits with
  | nil => exact absurd rfl nonempty
  | cons c digits => rfl

theorem read_radix_none_iff (few : radix ≤ 16) (digits : List Char) :
    readRadix radix digits = none ↔ digits = [] ∨ ∃ c ∈ digits, ∀ d, ¬ IsDigit radix c d := by
  by_cases empty : digits = []
  · subst empty
    exact iff_of_true rfl (.inl rfl)
  · rw [read_radix_nonempty radix digits empty, accumulate_none_iff, or_iff_right empty]
    simp only [digit_value_none_iff radix _ few]

end Accumulation

theorem marked_read (text : String) (opening digits : List Char) (radix : Nat)
    (marks : Marks opening radix) (written : bare text = opening ++ digits) :
    readLiteral text = readRadix radix digits := by
  rw [← read_radix_lower radix (marks_radix opening radix marks) digits]
  have normal : normalize text = (opening ++ digits).map Char.toLower := by
    rw [← written]
    rfl
  unfold readLiteral
  rw [normal]
  cases marks with
  | hexadecimal mark letter => obtain rfl | rfl := letter <;> rfl
  | octal mark letter => obtain rfl | rfl := letter <;> rfl
  | binary mark letter => obtain rfl | rfl := letter <;> rfl

theorem leading_zero_read (text : String) (digits : List Char) (nonempty : digits ≠ [])
    (octal : ∀ c ∈ digits, ∃ d, IsDigit 8 c d) (written : bare text = '0' :: digits) :
    readLiteral text = readRadix 8 digits := by
  rw [← read_radix_lower 8 (by decide) digits]
  have normal : normalize text = '0' :: digits.map Char.toLower := by
    rw [normalize, ← bare, written]
    rfl
  have all : (digits.map Char.toLower).all isOctalDigit = true := by
    rw [List.all_map, List.all_eq_true]
    intro c member
    obtain ⟨d, digit⟩ := octal c member
    exact octal_digit c d digit
  have unmarked (mark : Char) (rest : List Char) (letter : isOctalDigit mark = false)
      (same : '0' :: digits.map Char.toLower = '0' :: mark :: rest) : False := by
    rw [(List.cons.inj same).2, List.all_cons, letter] at all
    cases all
  unfold readLiteral
  rw [normal]
  split
  · next rest same => exact (unmarked 'x' rest rfl same).elim
  · next rest same => exact (unmarked 'o' rest rfl same).elim
  · next rest same => exact (unmarked 'b' rest rfl same).elim
  · next d rest _ _ _ same => rw [← (List.cons.inj same).2, if_pos all]
  · next _ _ _ other =>
      obtain ⟨c, rest, rfl⟩ := List.exists_cons_of_ne_nil nonempty
      exact absurd rfl (other _ _)

theorem opened_read (text : String) (opening digits : List Char) (radix n : Nat)
    (opens : Opens opening radix) (written : bare text = opening ++ digits) (nonempty : digits ≠ [])
    (denotes : Denotes radix digits n) : readLiteral text = accumulate radix .zero digits := by
  rw [← read_radix_nonempty radix digits nonempty]
  cases opens with
  | marked _ _ marks => exact marked_read text opening digits radix marks written
  | zero => exact leading_zero_read text digits nonempty (denoted_digits 8 digits n denotes) written

theorem read_exactly (text : String) (digits : List Char) (radix n : Nat) (few : radix ≤ 16)
    (read : readLiteral text = accumulate radix .zero digits)
    (denotes : Denotes radix digits n) (small : n ≤ 2 ^ 53) :
    ReadExactly radix text digits n := by
  refine ⟨read.trans (accumulate_exact radix few digits n denotes small), ?_⟩
  rintro before c after rfl
  rw [List.append_cons] at denotes
  obtain ⟨next, upTo, reached⟩ := denotes_prefix radix _ after n denotes
  obtain ⟨m, d, earlier, digit, rfl⟩ := (denotes_snoc radix before c next).mp reached
  have step := step_exact radix m d (Nat.le_trans upTo small)
  have before_exact := accumulate_exact radix few before m earlier
    (Nat.le_trans (leading_small radix m d c digit) step.small)
  refine ⟨m, d, earlier, digit, before_exact, step, ?_⟩
  rw [read, accumulate_append, before_exact, Option.bind_some,
    accumulate_step radix few m d c after digit step]

-- Underscores count for nothing, wherever they stand. The first part is about every way to name a
-- radix; digits after a zero alone are read in ten where one of them is no octal digit.
theorem radix_literals_exact (text : String) (opening digits : List Char) (radix : Nat)
    (written : bare text = opening ++ digits) :
    (Opens opening radix → digits ≠ [] → ∀ n, Denotes radix digits n → n ≤ 2 ^ 53 →
      ReadExactly radix text digits n) ∧
    (Marks opening radix →
      (readLiteral text = none ↔ digits = [] ∨ ∃ c ∈ digits, ∀ d, ¬ IsDigit radix c d)) := by
  constructor
  · intro opens nonempty n denotes small
    exact read_exactly text digits radix n (opens_radix opening radix opens)
      (opened_read text opening digits radix n opens written nonempty denotes) denotes small
  · intro marks
    rw [marked_read text opening digits radix marks written]
    exact read_radix_none_iff radix (marks_radix opening radix marks) digits

-- 2^53 itself, an octal literal, and a binary one with another digit.
theorem limit_read_exactly :
    (bare "0X_0020_0000_0000_0000" = ['0', 'X'] ++ "0020000000000000".toList ∧
      ReadExactly 16 "0X_0020_0000_0000_0000" "0020000000000000".toList (2 ^ 53)) ∧
    (bare "0_3_77" = ['0'] ++ ['3', '7', '7'] ∧ ReadExactly 8 "0_3_77" ['3', '7', '7'] 255) ∧
    bare "0_B1_2" = ['0', 'B'] ++ ['1', '2'] ∧ readLiteral "0_B1_2" = none := by
  have limit : bare "0X_0020_0000_0000_0000" = ['0', 'X'] ++ "0020000000000000".toList := by
    decide
  have octal : bare "0_3_77" = ['0'] ++ ['3', '7', '7'] := by decide
  have binary : bare "0_B1_2" = ['0', 'B'] ++ ['1', '2'] := by decide
  refine ⟨⟨limit, ?_⟩, ⟨octal, ?_⟩, binary, ?_⟩
  · have values : Denotes 16 "0020000000000000".toList (2 ^ 53) :=
      ⟨[0, 0, 0, 0, 0, 0, 0, 0, 0, 0, 0, 0, 0, 2, 0, 0], by decide, by decide⟩
    exact (radix_literals_exact _ _ _ 16 limit).1 (.marked _ _ (.hexadecimal 'X' (.inr rfl)))
      (by decide) _ values (Nat.le_refl _)
  · have values : Denotes 8 ['3', '7', '7'] 255 := ⟨[7, 7, 3], by decide, by decide⟩
    exact (radix_literals_exact _ _ _ 8 octal).1 .zero (by decide) _ values (by decide)
  · exact ((radix_literals_exact _ _ _ 2 binary).2 (.binary 'B' (.inr rfl))).mpr
      (.inr ⟨'2', by decide, (digit_value_none_iff 2 '2' (by decide)).mp rfl⟩)

-- One more than the limit lies between two values.
example : readLiteral "0x20000000000001" = some (.whole 0x20000000000000) := by decide +kernel

end FlowDefs.Number
