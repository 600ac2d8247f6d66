import FlowDefs.Text.StringLiteral
set_option autoImplicit false

namespace FlowDefs.Text

-- The code units of a code point; a surrogate code point is a unit of its own.
def codeUnits (n : Nat) : List Nat :=
  if n < 0x10000 then [n]
  else [0xD800 + (n - 0x10000) / 0x400, 0xDC00 + (n - 0x10000) % 0x400]

def aloneUnit (unit : Nat) : Char :=
  if isHighSurrogate unit || isLowSurrogate unit then '\uFFFD' else Char.ofNat unit

def lossyText : List Nat → List Char
  | [] => []
  | [unit] => [aloneUnit unit]
  | high :: low :: units =>
    if isHighSurrogate high && isLowSurrogate low then
      Char.ofNat (0x10000 + (high - 0xD800) * 0x400 + (low - 0xDC00)) :: lossyText units
    else aloneUnit high :: lossyText (low :: units)

-- The first text ends in a high surrogate and the second begins with a low one.
def Joined (before after : List Nat) : Prop :=
  (∃ high ∈ before.getLast?, isHighSurrogate high = true) ∧
    ∃ low ∈ after.head?, isLowSurrogate low = true

theorem low_not_high (unit : Nat) (low : isLowSurrogate unit = true) :
    isHighSurrogate unit = false := by
  simp only [isLowSurrogate, isHighSurrogate, Bool.and_eq_true, decide_eq_true_eq] at *
  simp
  omega

theorem high_not_low (unit : Nat) (high : isHighSurrogate unit = true) :
    isLowSurrogate unit = false := by
  cases low : isLowSurrogate unit with
  | false => rfl
  | true =>
      rw [low_not_high unit low] at high
      cases high

theorem low_joins_none (unit : Nat) (units : List Nat) (low : isLowSurrogate unit = true) :
    ¬ Joined [unit] units := by
  rintro ⟨⟨last, same, high⟩, -⟩
  obtain rfl : unit = last := by simpa using same
  rw [low_not_high unit low] at high
  cases high

theorem lossy_pair (high low : Nat) (units : List Nat) (first : isHighSurrogate high = true)
    (second : isLowSurrogate low = true) :
    lossyText (high :: low :: units) =
      Char.ofNat (0x10000 + (high - 0xD800) * 0x400 + (low - 0xDC00)) :: lossyText units := by
  rw [lossyText, first, second]
  rfl

theorem lossy_alone (unit : Nat) (units : List Nat) (alone : ¬ Joined [unit] units) :
    lossyText (unit :: units) = aloneUnit unit :: lossyText units := by
  cases units with
  | nil => rfl
  | cons low units =>
      rw [lossyText, if_neg]
      intro pair
      rw [Bool.and_eq_true] at pair
      exact alone ⟨⟨unit, rfl, pair.1⟩, low, rfl, pair.2⟩

theorem lossy_code_units (n : Nat) (units : List Nat) (valid : n.isValidChar) :
    lossyText (codeUnits n ++ units) = Char.ofNat n :: lossyText units := by
  unfold codeUnits
  split
  · next small =>
      have plain : (isHighSurrogate n || isLowSurrogate n) = false := by
        simp only [isHighSurrogate, isLowSurrogate, Bool.or_eq_false_iff, Bool.and_eq_false_iff,
          decide_eq_false_iff_not]
        rcases valid with below | ⟨above, -⟩
        · omega
        · omega
      have alone : ¬ Joined [n] units := by
        rintro ⟨⟨high, same, surrogate⟩, -⟩
        obtain rfl : n = high := by simpa using same
        rw [surrogate] at plain
        cases plain
      rw [List.singleton_append, lossy_alone n units alone, aloneUnit, plain]
      rfl
  · next large =>
      have limit : n < 0x110000 := by
        rcases valid with below | ⟨-, above⟩
        · omega
        · exact above
      have value : 0x10000 + (0xD800 + (n - 0x10000) / 0x400 - 0xD800) * 0x400 +
          (0xDC00 + (n - 0x10000) % 0x400 - 0xDC00) = n := by omega
      rw [List.cons_append, List.singleton_append, lossy_pair, value]
      · simp only [isHighSurrogate, Bool.and_eq_true, decide_eq_true_eq]
        omega
      · simp only [isLowSurrogate, Bool.and_eq_true, decide_eq_true_eq]
        omega

-- Text without surrogates comes back as it was.
theorem lossy_chars (text : List Char) :
    lossyText (text.flatMap fun c => codeUnits c.toNat) = text := by
  induction text with
  | nil => rfl
  | cons c text ih =>
      have valid : c.toNat.isValidChar := c.valid
      rw [List.flatMap_cons, lossy_code_units _ _ valid, ih, Char.ofNat_toNat]

theorem joined_behind (front before after : List Nat) (joined : Joined before after) :
    Joined (front ++ before) after := by
  obtain ⟨⟨high, last, surrogate⟩, next⟩ := joined
  refine ⟨⟨high, ?_, surrogate⟩, next⟩
  rw [List.getLast?_append, Option.mem_def.mp last]
  rfl

theorem lossy_append (before after : List Nat) (apart : ¬ Joined before after) :
    lossyText (before ++ after) = lossyText before ++ lossyText after := by
  fun_induction lossyText before with
  | case1 => rfl
  | case2 unit => exact lossy_alone unit after apart
  | case3 high low units pair ih =>
      rw [Bool.and_eq_true] at pair
      rw [List.cons_append, List.cons_append, lossy_pair high low _ pair.1 pair.2,
        ih fun joined => apart (joined_behind [high, low] units after joined)]
      rfl
  | case4 high low units pair ih =>
      have alone : ¬ Joined [high] (low :: units ++ after) := by
        rintro ⟨⟨first, same, surrogate⟩, second, following, other⟩
        obtain rfl : high = first := by simpa using same
        obtain rfl : low = second := by simpa using following
        exact pair (by rw [surrogate, other]; rfl)
      rw [List.cons_append, lossy_alone high _ alone,
        ih fun joined => apart (joined_behind [high] (low :: units) after joined)]
      rfl

-- Read apart, the two halves of a character are two characters.
theorem lossy_joined_shorter (before after : List Nat) (joined : Joined before after) :
    (lossyText (before ++ after)).length <
      (lossyText before).length + (lossyText after).length := by
  obtain ⟨⟨high, last, first⟩, low, head, second⟩ := joined
  obtain ⟨front, rfl⟩ := List.getLast?_eq_some_iff.mp last
  obtain ⟨rest, rfl⟩ := List.head?_eq_some_iff.mp head
  have none (units : List Nat) : ¬ Joined front (high :: units) := by
    rintro ⟨-, unit, same, surrogate⟩
    obtain rfl : high = unit := by simpa using same
    rw [low_not_high high surrogate] at first
    cases first
  rw [List.append_assoc, List.singleton_append, lossy_append front _ (none _),
    lossy_append front _ (none _), lossy_pair high low rest first second,
    lossy_alone low rest (low_joins_none low rest second)]
  simp only [List.length_append, List.length_cons, lossyText, List.length_nil]
  omega

end FlowDefs.Text
