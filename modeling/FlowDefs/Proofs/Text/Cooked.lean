import FlowDefs.Proofs.Text.Literals
set_option autoImplicit false

namespace FlowDefs.Text

def literalUnits (es : List Element) : List Nat := es.flatMap Element.units

-- The text of the stretches between line continuations, each read by itself.
def stretchText (es : List Element) : List Char :=
  (es.splitOnP Element.isContinuation).flatMap fun run => lossyText (literalUnits run)

-- A line continuation stands between a high surrogate and the low one that follows it.
def Parted (es : List Element) : Prop :=
  ∃ (before : List Element) (lineEnd : List Char) (after : List Element),
    es = before ++ .continuation lineEnd :: after ∧
      Joined (literalUnits before) (literalUnits after)

section Codes

variable (n : Nat) (ps : List Piece)

theorem assemble_high (pending : Option Nat) (high : isHighSurrogate n = true) :
    assemble pending (.code n :: ps) = flush pending ++ assemble (some n) ps := by
  cases pending with
  | none => rw [assemble, if_pos high]
  | some h => rw [assemble, if_pos high]

theorem assemble_lone (low : isLowSurrogate n = true) :
    assemble none (.code n :: ps) = replacement :: assemble none ps := by
  rw [assemble, if_neg (by simp [low_not_high n low]), if_pos low]

theorem assemble_pair (high : Nat) (low : isLowSurrogate n = true) :
    assemble (some high) (.code n :: ps) = combine high n :: assemble none ps := by
  rw [assemble, if_neg (by simp [low_not_high n low]), if_pos low]

theorem assemble_scalar (pending : Option Nat) (high : isHighSurrogate n = false)
    (low : isLowSurrogate n = false) :
    assemble pending (.code n :: ps) = flush pending ++ scalar n :: assemble none ps := by
  have upper : ¬ isHighSurrogate n = true := by simp [high]
  have lower : ¬ isLowSurrogate n = true := by simp [low]
  cases pending with
  | none => rw [assemble, if_neg upper, if_neg lower]
  | some h => rw [assemble, if_neg upper, if_neg lower]

end Codes

section Pending

theorem code_units_head (n : Nat) (units : List Nat) (valid : n.isValidChar) :
    ∀ low ∈ (codeUnits n ++ units).head?, isLowSurrogate low = false := by
  intro low head
  unfold codeUnits at head
  split at head
  · obtain rfl : n = low := by simpa using head
    simp only [isLowSurrogate, Bool.and_eq_false_iff, decide_eq_false_iff_not]
    rcases valid with below | ⟨above, -⟩
    · omega
    · omega
  · next large =>
      have limit : n < 0x110000 := by
        rcases valid with below | ⟨-, above⟩
        · omega
        · exact above
      obtain rfl : 0xD800 + (n - 0x10000) / 0x400 = low := by simpa using head
      simp only [isLowSurrogate, Bool.and_eq_false_iff, decide_eq_false_iff_not]
      omega

theorem high_unit (n : Nat) (high : isHighSurrogate n = true) : codeUnits n = [n] := by
  simp only [isHighSurrogate, Bool.and_eq_true, decide_eq_true_eq] at high
  exact if_pos (by omega)

theorem low_unit (n : Nat) (low : isLowSurrogate n = true) : codeUnits n = [n] := by
  simp only [isLowSurrogate, Bool.and_eq_true, decide_eq_true_eq] at low
  exact if_pos (by omega)

theorem scalar_range (n : Nat) (small : n ≤ 0x10FFFF) (high : isHighSurrogate n = false)
    (low : isLowSurrogate n = false) : n.isValidChar := by
  simp only [isHighSurrogate, isLowSurrogate, Bool.and_eq_false_iff,
    decide_eq_false_iff_not] at high low
  by_cases below : n < 0xD800
  · exact .inl below
  · exact .inr ⟨by omega, by omega⟩

theorem scalar_valid (n : Nat) (valid : n.isValidChar) : scalar n = Char.ofNat n := if_pos valid

theorem combine_surrogates (high low : Nat) (first : isHighSurrogate high = true)
    (second : isLowSurrogate low = true) :
    combine high low = Char.ofNat (0x10000 + (high - 0xD800) * 0x400 + (low - 0xDC00)) := by
  simp only [isHighSurrogate, isLowSurrogate, Bool.and_eq_true, decide_eq_true_eq] at first second
  exact scalar_valid _ (.inr ⟨by omega, by omega⟩)

variable (pending : Option Nat) (high : ∀ h ∈ pending, isHighSurrogate h = true)

include high

theorem lossy_flush (units : List Nat) (apart : ∀ low ∈ units.head?, isLowSurrogate low = false) :
    lossyText (pending.toList ++ units) = flush pending ++ lossyText units := by
  cases pending with
  | none => rfl
  | some h =>
      have alone : ¬ Joined [h] units := by
        rintro ⟨-, low, head, surrogate⟩
        rw [apart low head] at surrogate
        cases surrogate
      rw [Option.toList_some, List.singleton_append, lossy_alone h units alone, aloneUnit,
        high h rfl]
      rfl

theorem lossy_flush_char (n : Nat) (units : List Nat) (valid : n.isValidChar) :
    lossyText (pending.toList ++ (codeUnits n ++ units)) =
      flush pending ++ Char.ofNat n :: lossyText units := by
  rw [lossy_flush pending high _ (code_units_head n units valid), lossy_code_units n units valid]

end Pending

-- The text of the pieces after any pending surrogate: its first stretch has these units.
def Assembles (ps : List Piece) (units : List Nat) (later : List Char) : Prop :=
  ∀ pending : Option Nat, (∀ h ∈ pending, isHighSurrogate h = true) →
    assemble pending ps = lossyText (pending.toList ++ units) ++ later

theorem assembles_nothing : Assembles [] [] [] := by
  intro pending high
  rw [lossy_flush pending high [] (by simp), assemble]
  simp [lossyText]

section Steps

variable (ps : List Piece) (units : List Nat) (later : List Char)
  (rest : Assembles ps units later)

include rest

theorem assembles_none : assemble none ps = lossyText units ++ later := rest none (by simp)

theorem assembles_char (c : Char) :
    Assembles (.char c :: ps) (codeUnits c.toNat ++ units) later := by
  intro pending high
  have valid : c.toNat.isValidChar := c.valid
  rw [assemble, assembles_none ps units later rest, lossy_flush_char pending high c.toNat _ valid,
    Char.ofNat_toNat, List.append_assoc, List.cons_append]

-- A continuation ends the stretch, and a surrogate that is pending with it.
theorem assembles_continuation :
    Assembles (.continuation :: ps) [] (lossyText units ++ later) := by
  intro pending high
  rw [assemble, assembles_none ps units later rest, lossy_flush pending high [] (by simp)]
  simp [lossyText]

theorem assembles_code (n : Nat) (small : n ≤ 0x10FFFF) :
    Assembles (.code n :: ps) (codeUnits n ++ units) later := by
  intro pending high
  have alone := assembles_none ps units later rest
  cases upper : isHighSurrogate n with
  | true =>
      have pended := rest (some n) (by simpa using upper)
      rw [assemble_high n ps pending upper, pended, high_unit n upper,
        lossy_flush pending high _ (by simpa using high_not_low n upper), List.append_assoc]
      rfl
  | false =>
      cases lower : isLowSurrogate n with
      | true =>
          rw [low_unit n lower, List.singleton_append]
          cases pending with
          | none =>
              rw [assemble_lone n ps lower, alone, Option.toList_none, List.nil_append,
                lossy_alone n units (low_joins_none n units lower), aloneUnit, lower, Bool.or_true]
              rfl
          | some h =>
              rw [assemble_pair n ps h lower, alone, Option.toList_some, List.singleton_append,
                lossy_pair h n units (high h rfl) lower,
                combine_surrogates h n (high h rfl) lower, List.cons_append]
      | false =>
          have valid : n.isValidChar := scalar_range n small upper lower
          rw [assemble_scalar n ps pending upper lower, alone,
            lossy_flush_char pending high n units valid, scalar_valid n valid,
            List.append_assoc, List.cons_append]

theorem assembles_element (quote : Char) (e : Element) (formed : e.WellFormed quote)
    (plain : e.isContinuation = false) : Assembles (e.piece :: ps) (e.units ++ units) later := by
  have short (digits : List Char) (few : digits.length ≤ 4) : hexNumber digits < 0x10000 :=
    Nat.lt_of_lt_of_le (hex_number_small digits) (Nat.pow_le_pow_right (by decide) few)
  have one (digits : List Char) (few : digits.length ≤ 4) :
      Assembles (.code (hexNumber digits) :: ps) ([hexNumber digits] ++ units) later := by
    have single : codeUnits (hexNumber digits) = [hexNumber digits] := if_pos (short digits few)
    rw [← single]
    exact assembles_code ps units later rest _ (by have := short digits few; omega)
  cases e with
  | plain c => exact assembles_char ps units later rest c
  | escaped c => exact assembles_char ps units later rest (Element.escapeValue c)
  | null => exact assembles_char ps units later rest '\x00'
  | byte digits => exact one digits (by rw [formed.1]; decide)
  | unit digits => exact one digits (Nat.le_of_eq formed.1)
  | point digits => exact assembles_code ps units later rest _ formed.2.2
  | continuation => cases plain

end Steps

theorem assembles_stretches (quote : Char) (es : List Element)
    (formed : ∀ e ∈ es, e.WellFormed quote) (run : List Element) (runs : List (List Element))
    (split : es.splitOnP Element.isContinuation = run :: runs) :
    Assembles (es.map Element.piece) (literalUnits run)
      (runs.flatMap fun run => lossyText (literalUnits run)) := by
  induction es generalizing run runs with
  | nil =>
      cases split
      exact assembles_nothing
  | cons e es ih =>
      obtain ⟨next, later, rest⟩ := List.exists_cons_of_ne_nil
        (List.splitOnP_ne_nil Element.isContinuation es)
      have inner := ih (fun e member => formed e (List.mem_cons_of_mem _ member)) next later rest
      rw [List.splitOnP_cons_eq_if_modifyHead, rest] at split
      cases breaks : e.isContinuation with
      | true =>
          rw [breaks] at split
          cases split
          cases e with
          | continuation lineEnd => exact assembles_continuation _ _ _ inner
          | _ => cases breaks
      | false =>
          rw [breaks] at split
          cases split
          exact assembles_element _ _ _ inner quote e (formed e List.mem_cons_self) breaks

theorem written_formed (quote : Char) (es : List Element) (text : List Char)
    (written : Written quote es text) : ∀ e ∈ es, e.WellFormed quote := by
  induction written with
  | done => simp
  | next e es following formed before rest ih => exact List.forall_mem_cons.mpr ⟨formed, ih⟩

-- A literal is one stretch, or a stretch before a continuation and a literal after it.
theorem by_continuations {P : List Element → Prop}
    (single : ∀ es : List Element, (∀ e ∈ es, e.isContinuation = false) → P es)
    (split : ∀ (before : List Element) (lineEnd : List Char) (after : List Element),
      (∀ e ∈ before, e.isContinuation = false) → P after →
        P (before ++ .continuation lineEnd :: after))
    (es : List Element) : P es := by
  have general (front : List Element) (plain : ∀ e ∈ front, e.isContinuation = false) :
      P (front ++ es) := by
    induction es generalizing front with
    | nil => exact single _ (by simpa using plain)
    | cons e es ih =>
        cases breaks : e.isContinuation with
        | true =>
            cases e with
            | continuation lineEnd => exact split front lineEnd es plain (ih [] (by simp))
            | _ => cases breaks
        | false =>
            rw [← List.singleton_append, ← List.append_assoc]
            refine ih (front ++ [e]) fun x member => ?_
            rcases List.mem_append.mp member with old | new
            · exact plain x old
            · rw [List.mem_singleton.mp new, breaks]
  exact general [] (by simp)

theorem stretch_single (es : List Element) (plain : ∀ e ∈ es, e.isContinuation = false) :
    stretchText es = lossyText (literalUnits es) := by
  rw [stretchText, List.splitOnP_eq_singleton plain, List.flatMap_cons, List.flatMap_nil,
    List.append_nil]

section Split

variable (before : List Element) (lineEnd : List Char) (after : List Element)

theorem stretch_split :
    stretchText (before ++ .continuation lineEnd :: after) =
      stretchText before ++ stretchText after := by
  rw [stretchText, List.splitOnP_append_cons _ _ rfl, List.flatMap_append]
  rfl

theorem units_split :
    literalUnits (before ++ .continuation lineEnd :: after) =
      literalUnits before ++ literalUnits after := by
  simp [literalUnits, Element.units]

end Split

theorem lossy_append_length (before after : List Nat) :
    (lossyText (before ++ after)).length ≤
      (lossyText before).length + (lossyText after).length := by
  by_cases joined : Joined before after
  · exact Nat.le_of_lt (lossy_joined_shorter before after joined)
  · exact Nat.le_of_eq (by rw [lossy_append before after joined, List.length_append])

theorem stretch_length (es : List Element) :
    (lossyText (literalUnits es)).length ≤ (stretchText es).length := by
  induction es using by_continuations with
  | single es plain => exact Nat.le_of_eq (by rw [stretch_single es plain])
  | split before lineEnd after plain ih =>
      have whole := lossy_append_length (literalUnits before) (literalUnits after)
      rw [stretch_split, units_split, stretch_single before plain, List.length_append]
      omega

theorem stretch_whole (es : List Element) (whole : ¬ Parted es) :
    stretchText es = lossyText (literalUnits es) := by
  induction es using by_continuations with
  | single es plain => exact stretch_single es plain
  | split before lineEnd after plain ih =>
      have apart : ¬ Joined (literalUnits before) (literalUnits after) := fun joined =>
        whole ⟨before, lineEnd, after, rfl, joined⟩
      have inner : ¬ Parted after := by
        rintro ⟨front, mark, rest, rfl, joined⟩
        refine whole ⟨before ++ .continuation lineEnd :: front, mark, rest, by simp, ?_⟩
        rw [units_split]
        exact joined_behind _ _ _ joined
      rw [stretch_split, units_split, stretch_single before plain, ih inner,
        lossy_append _ _ apart]

theorem stretch_parted (es : List Element) (parted : Parted es) :
    stretchText es ≠ lossyText (literalUnits es) := by
  obtain ⟨before, lineEnd, after, rfl, joined⟩ := parted
  intro same
  have lengths := congrArg List.length same
  have shorter := lossy_joined_shorter _ _ joined
  have first := stretch_length before
  have second := stretch_length after
  rw [stretch_split, units_split, List.length_append] at lengths
  omega

section Literal

variable (raw : String) (quote : Char) (es : List Element) (text : List Char)
  (mark : quote = '"' ∨ quote = '\'') (written : Written quote es text)
  (spelled : raw.toList = quote :: text ++ [quote])

include mark written spelled

theorem decoded_stretches : decodeString raw = some (String.ofList (stretchText es)) := by
  have inner : unquoted? raw.toList = some text := by
    rw [spelled, List.cons_append, unquoted?, if_pos ⟨mark, by simp⟩, List.dropLast_concat]
  obtain ⟨run, runs, split⟩ := List.exists_cons_of_ne_nil
    (List.splitOnP_ne_nil Element.isContinuation es)
  have assembled := assembles_none _ _ _
    (assembles_stretches quote es (written_formed quote es text written) run runs split)
  simp only [decodeString, inner, pieces_written quote es text written, Option.bind_eq_bind,
    Option.bind_some, assembled, stretchText, split, List.flatMap_cons]

theorem cooked_unless_parted :
    decodeString raw = some (String.ofList (stretchText es)) ∧
      (decodeString raw = some (String.ofList (lossyText (literalUnits es))) ↔ ¬ Parted es) := by
  have decoded := decoded_stretches raw quote es text mark written spelled
  refine ⟨decoded, fun cooked parted => ?_, fun whole => ?_⟩
  · rw [decoded, Option.some.injEq, String.ofList_inj] at cooked
    exact stretch_parted es parted cooked
  · rw [decoded, stretch_whole es whole]

end Literal

def faceHigh : Element := .unit ['D', '8', '3', 'D']

def faceLow : Element := .unit ['D', 'E', '0', '0']

def lineBreak : Element := .continuation ['\n']

theorem unit_written (quote : Char) (digits : List Char) (es : List Element) (text : List Char)
    (four : digits.length = 4) (hex : digits.all isHexDigit = true)
    (rest : Written quote es text) :
    Written quote (.unit digits :: es) ('\\' :: 'u' :: (digits ++ text)) :=
  .next (.unit digits) es text ⟨four, hex⟩ trivial rest

theorem break_written (quote : Char) (es : List Element) (text : List Char)
    (rest : Written quote es text) : Written quote (lineBreak :: es) ('\\' :: '\n' :: text) :=
  .next lineBreak es text List.mem_cons_self (fun same => by cases same) rest

-- A continuation after both halves of a character does no harm.
theorem pair_before_break_cooked :
    Written '"' [faceHigh, faceLow, lineBreak] "\\uD83D\\uDE00\\\n".toList ∧
      ¬ Parted [faceHigh, faceLow, lineBreak] ∧
      decodeString "\"\\uD83D\\uDE00\\\n\"" = some "😀" := by
  have written : Written '"' [faceHigh, faceLow, lineBreak] "\\uD83D\\uDE00\\\n".toList :=
    unit_written _ _ _ _ rfl rfl (unit_written _ _ _ _ rfl rfl (break_written _ _ _ .done))
  have whole : ¬ Parted [faceHigh, faceLow, lineBreak] := fun parted =>
    stretch_parted _ parted (by decide +kernel)
  have cooked := cooked_unless_parted "\"\\uD83D\\uDE00\\\n\"" '"' _ _ (.inl rfl) written
    (by decide)
  exact ⟨written, whole, (cooked.2.mpr whole).trans (by decide +kernel)⟩

theorem break_parts_pair :
    Written '"' [faceHigh, lineBreak, faceLow] "\\uD83D\\\n\\uDE00".toList ∧
      lossyText (literalUnits [faceHigh, lineBreak, faceLow]) = ['😀'] ∧
      decodeString "\"\\uD83D\\\n\\uDE00\"" = some "\uFFFD\uFFFD" ∧
      decodeString "\"\\uD83D\\\n\\uDE00\"" ≠ some "😀" := by
  have written : Written '"' [faceHigh, lineBreak, faceLow] "\\uD83D\\\n\\uDE00".toList :=
    unit_written _ _ _ _ rfl rfl (break_written _ _ _ (unit_written _ _ _ _ rfl rfl .done))
  have decoded : decodeString "\"\\uD83D\\\n\\uDE00\"" = some "\uFFFD\uFFFD" :=
    (decoded_stretches _ '"' _ _ (.inl rfl) written (by decide)).trans (by decide +kernel)
  refine ⟨written, by decide +kernel, decoded, ?_⟩
  rw [decoded]
  decide

end FlowDefs.Text
