import FlowDefs.Proofs.Text.Listing
import FlowDefs.Proofs.Text.Literals
set_option autoImplicit false

namespace FlowDefs.Text

-- An escape with a code, after its backslash, and what stands in the place of the digits.
inductive CodeEscape where
  | byte (digits : List Char)
  | unit (digits : List Char)
  | point (digits : List Char) (closed : Bool)

namespace CodeEscape

def text : CodeEscape → List Char
  | byte digits => 'x' :: digits
  | unit digits => 'u' :: digits
  | point digits closed => 'u' :: '\x7b' :: (digits ++ if closed then ['\x7d'] else [])

def digits : CodeEscape → List Char
  | byte digits => digits
  | unit digits => digits
  | point digits _ => digits

def isOpen : CodeEscape → Bool
  | point _ closed => !closed
  | _ => false

def Counted : CodeEscape → Prop
  | byte digits => digits.length = 2
  | unit digits => digits.length = 4
  | point digits _ => digits ≠ []

-- How far the escape reaches before this text, whatever its digits are.
structure Framed (e : CodeEscape) (following : List Char) : Prop where
  counted : e.Counted
  braces : ∀ c ∈ e.digits, c ≠ '\x7b' ∧ c ≠ '\x7d'
  ends : e.isOpen = true → following = []

structure Complete (e : CodeEscape) : Prop where
  counted : e.Counted
  hex : e.digits.all isHexDigit = true
  closed : e.isOpen = false

def unsigned (cs : List Char) : List Char :=
  match cs with
  | '+' :: rest => rest
  | _ => cs

-- What is accepted with this text after it.
structure Readable (e : CodeEscape) (following : List Char) : Prop where
  counted : e.Counted
  nonempty : unsigned e.digits ≠ []
  hex : (unsigned e.digits).all isHexDigit = true
  small : hexNumber (unsigned e.digits) < 0x100000000
  ends : e.isOpen = true → following = []

def Slipped (e : CodeEscape) : Prop := e.digits.head? = some '+' ∨ e.isOpen = true

end CodeEscape

-- Escapes with a code are written as the predicate says; any character but `u` and `x` can be
-- escaped by itself.
inductive Scanned (allowed : CodeEscape → List Char → Prop) : List Char → Prop where
  | done : Scanned allowed []
  | plain (c : Char) (cs : List Char) (other : c ≠ '\\') (rest : Scanned allowed cs) :
      Scanned allowed (c :: cs)
  | single (c : Char) (cs : List Char) (notUnit : c ≠ 'u') (notByte : c ≠ 'x')
      (rest : Scanned allowed cs) : Scanned allowed ('\\' :: c :: cs)
  | code (e : CodeEscape) (cs : List Char) (formed : allowed e cs) (rest : Scanned allowed cs) :
      Scanned allowed ('\\' :: (e.text ++ cs))

def EscapesComplete (text : List Char) : Prop := Scanned (fun e _ => e.Complete) text

def EscapesReadable (text : List Char) : Prop := Scanned CodeEscape.Readable text

-- The first escape that is not complete is one of the two slips.
def Slips (text : List Char) : Prop :=
  ∃ (before : List Char) (e : CodeEscape) (after : List Char),
    text = before ++ '\\' :: (e.text ++ after) ∧ EscapesComplete before ∧ e.Readable after ∧
      e.Slipped

section Codes

open CodeEscape

theorem hex_digits_hex (digits : List Char) (acc n : Nat) (read : hexDigits? acc digits = some n) :
    digits.all isHexDigit = true := by
  induction digits generalizing acc with
  | nil => rfl
  | cons c digits ih =>
      obtain ⟨digit, found, rest⟩ := Option.bind_eq_some_iff.mp read
      rw [List.all_cons, ih _ rest, Bool.and_true]
      exact Option.isSome_iff_exists.mpr ⟨digit, found⟩

theorem hex_code_iff (cs : List Char) (n : Nat) :
    hexCode? cs = some n ↔ unsigned cs ≠ [] ∧ (unsigned cs).all isHexDigit = true ∧
      hexNumber (unsigned cs) < 0x100000000 ∧ hexNumber (unsigned cs) = n := by
  have spelled : hexCode? cs = if (unsigned cs).isEmpty then none
      else (hexDigits? 0 (unsigned cs)).filter (· < 0x100000000) := rfl
  rw [spelled]
  cases empty : unsigned cs with
  | nil => simp
  | cons c digits =>
      rw [if_neg (by simp), Option.filter_eq_some_iff]
      constructor
      · rintro ⟨read, small⟩
        have hex := hex_digits_hex _ _ _ read
        rw [hex_digits_value _ _ hex, Option.some.injEq] at read
        exact ⟨List.cons_ne_nil _ _, hex, by simpa [hexNumber, read] using small, read⟩
      · rintro ⟨-, hex, small, rfl⟩
        exact ⟨hex_digits_value _ _ hex, by simpa using small⟩

theorem fixed_code_iff (width : Nat) (cs rest : List Char) (p : Piece) :
    fixedCode? width cs = some (p, rest) ↔ ∃ digits, cs = digits ++ rest ∧
      digits.length = width ∧ ∃ n, hexCode? digits = some n ∧ p = .code n := by
  unfold fixedCode?
  constructor
  · intro read
    split at read
    · next long =>
        obtain ⟨n, code, same⟩ := Option.map_eq_some_iff.mp read
        cases same
        exact ⟨cs.take width, (List.take_append_drop width cs).symm,
          List.length_take_of_le long, n, code, rfl⟩
    · cases read
  · rintro ⟨digits, rfl, rfl, n, code, rfl⟩
    rw [if_pos (by simp), List.take_left, List.drop_left, code, Option.map_some]

theorem readable_of_code (e : CodeEscape) (following : List Char) (n : Nat) (counted : e.Counted)
    (ends : e.isOpen = true → following = []) (read : hexCode? e.digits = some n) :
    e.Readable following := by
  obtain ⟨nonempty, hex, small, -⟩ := (hex_code_iff _ n).mp read
  exact ⟨counted, nonempty, hex, small, ends⟩

theorem readable_code (e : CodeEscape) (following : List Char) (readable : e.Readable following) :
    hexCode? e.digits = some (hexNumber (unsigned e.digits)) :=
  (hex_code_iff _ _).mpr ⟨readable.nonempty, readable.hex, readable.small, rfl⟩

theorem readable_no_brace (e : CodeEscape) (following : List Char)
    (readable : e.Readable following) : ∀ c ∈ e.digits, c ≠ '\x7b' ∧ c ≠ '\x7d' := by
  intro c member
  have hex := no_brace _ readable.hex c
  unfold unsigned at hex
  split at hex
  · next cs signed =>
      rw [signed] at member
      rcases List.mem_cons.mp member with rfl | later
      · decide
      · exact hex later
  · exact hex member

end Codes

section Acceptance

open CodeEscape

theorem braced_scanned (cs : List Char) (n : Nat)
    (read : hexCode? (cs.takeWhile (· ≠ '\x7d')) = some n)
    (rest : EscapesReadable ((cs.dropWhile (· ≠ '\x7d')).drop 1)) :
    EscapesReadable ('\\' :: 'u' :: '\x7b' :: cs) := by
  have whole := List.takeWhile_append_dropWhile (p := (· ≠ '\x7d')) (l := cs)
  obtain ⟨nonempty, -⟩ := (hex_code_iff _ n).mp read
  have some : cs.takeWhile (· ≠ '\x7d') ≠ [] := fun none => nonempty (by rw [none]; rfl)
  cases tail : cs.dropWhile (· ≠ '\x7d') with
  | nil =>
      rw [tail, List.append_nil] at whole
      rw [whole] at read some
      have formed := readable_of_code (.point cs false) [] n some (fun _ => rfl) read
      have scanned := Scanned.code (.point cs false) [] formed .done
      rw [CodeEscape.text, if_neg (by decide), List.append_nil, List.append_nil] at scanned
      exact scanned
  | cons brace after =>
      have stops : brace = '\x7d' := by
        have head := List.head?_dropWhile_not (· ≠ '\x7d') cs
        rw [tail] at head
        simpa using head
      subst stops
      rw [tail] at whole rest
      have formed := readable_of_code (.point (cs.takeWhile (· ≠ '\x7d')) true) after n some
        (fun impossible => by cases impossible) read
      have scanned := Scanned.code (.point _ true) after formed rest
      rw [CodeEscape.text, if_pos rfl, List.cons_append, List.cons_append, List.append_assoc,
        List.singleton_append, whole] at scanned
      exact scanned

theorem escape_scanned (cs rest : List Char) (p : Piece) (read : escape? cs = some (p, rest))
    (scanned : EscapesReadable rest) : EscapesReadable ('\\' :: cs) := by
  have fixed (e : List Char → CodeEscape) (width : Nat) (tail : List Char)
      (spelled : ∀ digits, (e digits).digits = digits ∧ (e digits).isOpen = false)
      (counted : ∀ digits, digits.length = width → (e digits).Counted)
      (found : fixedCode? width tail = some (p, rest)) :
      ∃ digits, tail = digits ++ rest ∧ (e digits).Readable rest := by
    obtain ⟨digits, split, length, n, code, -⟩ := (fixed_code_iff _ _ _ _).mp found
    refine ⟨digits, split, readable_of_code _ rest n (counted digits length) ?_ ?_⟩
    · rw [(spelled digits).2]
      intro impossible
      cases impossible
    · rw [(spelled digits).1]
      exact code
  unfold escape? at read
  split at read
  case h_1 => cases read
  case h_2 cs =>
    obtain ⟨n, code, same⟩ := Option.map_eq_some_iff.mp read
    cases same
    exact braced_scanned cs n code scanned
  case h_3 =>
    obtain ⟨digits, rfl, formed⟩ := fixed .unit 4 _ (fun _ => ⟨rfl, rfl⟩) (fun _ => id) read
    exact .code (.unit digits) rest formed scanned
  case h_4 =>
    obtain ⟨digits, rfl, formed⟩ := fixed .byte 2 _ (fun _ => ⟨rfl, rfl⟩) (fun _ => id) read
    exact .code (.byte digits) rest formed scanned
  case h_15 cs =>
    cases read
    exact .single '\r' _ (by decide) (by decide) (.plain '\n' _ (by decide) scanned)
  case h_17 c cs _ notUnit notByte _ _ _ _ _ _ _ _ _ _ _ _ =>
    cases read
    exact .single c _ notUnit notByte scanned
  all_goals
    cases read
    exact .single _ _ (by decide) (by decide) scanned

theorem pieces_scanned (text : List Char) (ps : List Piece) (read : pieces? text = some ps) :
    EscapesReadable text := by
  induction text using pieces?.induct generalizing ps with
  | case1 => exact .done
  | case2 cs none =>
      rw [pieces?] at read
      split at read
      · cases read
      · next found => rw [none] at found; cases found
  | case3 cs p rest found _ ih =>
      rw [pieces_escape cs rest p found] at read
      obtain ⟨later, inner, -⟩ := Option.map_eq_some_iff.mp read
      exact escape_scanned cs rest p found (ih later inner)
  | case4 c cs other ih =>
      rw [pieces_plain c cs other] at read
      obtain ⟨later, inner, -⟩ := Option.map_eq_some_iff.mp read
      exact .plain c cs other (ih later inner)

theorem single_escape (c : Char) (cs : List Char) (notUnit : c ≠ 'u') (notByte : c ≠ 'x') :
    ∃ p rest, escape? (c :: cs) = some (p, rest) ∧ (rest = cs ∨ cs = '\n' :: rest) := by
  cases read : escape? (c :: cs) with
  | none =>
      unfold escape? at read
      split at read <;> simp_all
  | some found =>
      obtain ⟨p, rest⟩ := found
      refine ⟨p, rest, rfl, ?_⟩
      unfold escape? at read
      split at read <;> simp_all

theorem code_escape (e : CodeEscape) (cs : List Char) (readable : e.Readable cs) :
    escape? (e.text ++ cs) = some (.code (hexNumber (unsigned e.digits)), cs) := by
  have code := readable_code e cs readable
  have braces := readable_no_brace e cs readable
  have fixed (width : Nat) (length : e.digits.length = width) :
      fixedCode? width (e.digits ++ cs) = some (.code (hexNumber (unsigned e.digits)), cs) :=
    (fixed_code_iff _ _ _ _).mpr ⟨e.digits, rfl, length, _, code, rfl⟩
  have inside : ∀ c ∈ e.digits, decide (c ≠ '\x7d') = true := fun c member =>
    decide_eq_true (braces c member).2
  cases e with
  | byte digits => exact fixed 2 readable.counted
  | unit digits =>
      rw [CodeEscape.text, List.cons_append, escape?]
      · exact fixed 4 readable.counted
      · intro rest same
        have length : digits.length = 4 := readable.counted
        cases digits with
        | nil => cases length
        | cons c digits => exact (braces c List.mem_cons_self).1 (List.cons.inj same).1
  | point digits closed =>
      have inside : ∀ c ∈ digits, decide (c ≠ '\x7d') = true := inside
      have value : hexCode? digits = _ := code
      rw [CodeEscape.text, List.cons_append, List.cons_append, List.append_assoc, escape?,
        List.takeWhile_append_of_pos inside, List.dropWhile_append_of_pos inside]
      cases closed with
      | true => simp [value]
      | false =>
          obtain rfl : cs = [] := readable.ends rfl
          simp [value]

theorem readable_pieces (text : List Char) (readable : EscapesReadable text) :
    ∃ ps, pieces? text = some ps := by
  induction readable with
  | done => exact ⟨[], by rw [pieces?]⟩
  | plain c cs other rest ih =>
      obtain ⟨ps, read⟩ := ih
      exact ⟨.char c :: ps, by rw [pieces_plain c cs other, read, Option.map_some]⟩
  | single c cs notUnit notByte rest ih =>
      obtain ⟨ps, read⟩ := ih
      obtain ⟨p, tail, found, same | same⟩ := single_escape c cs notUnit notByte
      · subst same
        exact ⟨p :: ps, by rw [pieces_escape _ _ p found, read, Option.map_some]⟩
      · -- A carriage return takes the line feed with it.
        subst same
        rw [pieces_plain '\n' tail (by decide)] at read
        obtain ⟨later, inner, -⟩ := Option.map_eq_some_iff.mp read
        exact ⟨p :: later, by rw [pieces_escape _ _ p found, inner, Option.map_some]⟩
  | code e cs formed rest ih =>
      obtain ⟨ps, read⟩ := ih
      have found := code_escape e cs formed
      exact ⟨_ :: ps, by rw [pieces_escape _ _ _ found, read, Option.map_some]⟩

def IsQuoted (raw : String) (text : List Char) : Prop :=
  ∃ quote, (quote = '"' ∨ quote = '\'') ∧ raw.toList = quote :: text ++ [quote]

theorem unquoted_iff (raw : String) (text : List Char) :
    unquoted? raw.toList = some text ↔ IsQuoted raw text := by
  unfold IsQuoted
  constructor
  · intro found
    cases spelled : raw.toList with
    | nil => rw [spelled] at found; cases found
    | cons quote cs =>
        rw [spelled, unquoted?] at found
        split at found
        · next marks =>
            obtain ⟨front, rfl⟩ := List.getLast?_eq_some_iff.mp marks.2
            rw [List.dropLast_concat, Option.some.injEq] at found
            exact ⟨quote, marks.1, by rw [found]; rfl⟩
        · cases found
  · rintro ⟨quote, mark, spelled⟩
    rw [spelled, List.cons_append, unquoted?, if_pos ⟨mark, by simp⟩, List.dropLast_concat]

theorem decoded_iff (raw : String) :
    (decodeString raw).isSome = true ↔ ∃ text, IsQuoted raw text ∧ EscapesReadable text := by
  constructor
  · intro decoded
    obtain ⟨value, found⟩ := Option.isSome_iff_exists.mp decoded
    obtain ⟨text, inner, found⟩ := Option.bind_eq_some_iff.mp found
    obtain ⟨ps, read, -⟩ := Option.bind_eq_some_iff.mp found
    exact ⟨text, (unquoted_iff raw text).mp inner, pieces_scanned text ps read⟩
  · rintro ⟨text, quoted, readable⟩
    obtain ⟨ps, read⟩ := readable_pieces text readable
    simp [decodeString, (unquoted_iff raw text).mpr quoted, read]

end Acceptance

section Slips

open CodeEscape

theorem unslipped_complete (e : CodeEscape) (following : List Char)
    (readable : e.Readable following) (straight : ¬ e.Slipped) : e.Complete := by
  obtain ⟨unsignedHead, closed⟩ := not_or.mp straight
  have bare : unsigned e.digits = e.digits := by
    unfold unsigned
    split
    · next rest signed => exact absurd (by rw [signed]; rfl) unsignedHead
    · rfl
  exact ⟨readable.counted, by rw [← bare]; exact readable.hex, by simpa using closed⟩

theorem slips_or_complete (text : List Char) (readable : EscapesReadable text) :
    EscapesComplete text ∨ Slips text := by
  have later (front rest : List Char)
      (whole : ∀ cs, EscapesComplete cs → EscapesComplete (front ++ cs))
      (ih : EscapesComplete rest ∨ Slips rest) :
      EscapesComplete (front ++ rest) ∨ Slips (front ++ rest) := by
    rcases ih with complete | ⟨before, e, after, rfl, complete, readable, slipped⟩
    · exact .inl (whole rest complete)
    · exact .inr ⟨front ++ before, e, after, by rw [List.append_assoc], whole before complete,
        readable, slipped⟩
  induction readable with
  | done => exact .inl .done
  | plain c cs other rest ih => exact later [c] cs (fun cs => .plain c cs other) ih
  | single c cs notUnit notByte rest ih =>
      exact later ['\\', c] cs (fun cs => .single c cs notUnit notByte) ih
  | code e cs formed rest ih =>
      by_cases slipped : e.Slipped
      · exact .inr ⟨[], e, cs, rfl, .done, formed, slipped⟩
      · have complete := unslipped_complete e cs formed slipped
        exact later ('\\' :: e.text) cs (fun cs => .code e cs complete) ih

theorem complete_framed (e : CodeEscape) (following : List Char) (complete : e.Complete) :
    e.Framed following := by
  refine ⟨complete.counted, no_brace _ complete.hex, ?_⟩
  rw [complete.closed]
  intro impossible
  cases impossible

theorem readable_framed (e : CodeEscape) (following : List Char)
    (readable : e.Readable following) : e.Framed following :=
  ⟨readable.counted, readable_no_brace e following readable, readable.ends⟩

theorem complete_not_slipped (e : CodeEscape) (complete : e.Complete) : ¬ e.Slipped := by
  rintro (signed | unclosed)
  · have digit := List.all_eq_true.mp complete.hex '+' (List.mem_of_head? signed)
    simp [isHexDigit, hexValue?] at digit
  · rw [complete.closed] at unclosed
    cases unclosed

-- There is one way to read an escape.
theorem framed_unique (e other : CodeEscape) (left right : List Char) (framed : e.Framed left)
    (framed' : other.Framed right) (same : e.text ++ left = other.text ++ right) :
    e = other ∧ left = right := by
  have noBrace (digits tail rest : List Char) (length : digits.length = 4)
      (plain : ∀ c ∈ digits, c ≠ '\x7b' ∧ c ≠ '\x7d') : digits ++ tail ≠ '\x7b' :: rest := by
    cases digits with
    | nil => cases length
    | cons c digits => exact fun equal => (plain c List.mem_cons_self).1 (List.cons.inj equal).1
  have tail (closed : Bool) (after : List Char) (ends : (!closed) = true → after = []) :
      ∀ c ∈ ((if closed then ['\x7d'] else []) ++ after).head?, decide (c ≠ '\x7d') = false := by
    cases closed with
    | true => simp
    | false => simp [ends rfl]
  cases e with
  | byte digits =>
      cases other with
      | byte others =>
          obtain ⟨rfl, rfl⟩ := List.append_inj (List.cons.inj same).2
            (framed.counted.trans framed'.counted.symm)
          exact ⟨rfl, rfl⟩
      | _ => cases same
  | unit digits =>
      cases other with
      | byte others => cases same
      | unit others =>
          obtain ⟨rfl, rfl⟩ := List.append_inj (List.cons.inj same).2
            (framed.counted.trans framed'.counted.symm)
          exact ⟨rfl, rfl⟩
      | point others closed =>
          exact absurd (List.cons.inj same).2 (noBrace digits _ _ framed.counted framed.braces)
  | point digits closed =>
      cases other with
      | byte others => cases same
      | unit others =>
          exact absurd (List.cons.inj same).2.symm
            (noBrace others _ _ framed'.counted framed'.braces)
      | point others closed' =>
          simp only [CodeEscape.text, List.cons_append, List.append_assoc, List.cons.injEq,
            true_and] at same
          obtain ⟨rfl, rest⟩ := run_unique (· ≠ '\x7d') _ _ _ _
            (fun c member => decide_eq_true (framed.braces c member).2)
            (fun c member => decide_eq_true (framed'.braces c member).2)
            (tail closed left framed.ends) (tail closed' right framed'.ends) same
          cases closed with
          | true =>
              cases closed' with
              | true => exact ⟨rfl, (List.cons.inj rest).2⟩
              | false => simp [framed'.ends rfl] at rest
          | false =>
              cases closed' with
              | true => simp [framed.ends rfl] at rest
              | false => exact ⟨rfl, rest⟩

theorem scanned_plain (allowed : CodeEscape → List Char → Prop) (c : Char) (cs : List Char)
    (other : c ≠ '\\') (scanned : Scanned allowed (c :: cs)) : Scanned allowed cs := by
  cases scanned with
  | plain _ _ _ rest => exact rest
  | single => exact absurd rfl other
  | code => exact absurd rfl other

theorem scanned_escape (allowed : CodeEscape → List Char → Prop) (cs : List Char)
    (scanned : Scanned allowed ('\\' :: cs)) :
    (∃ c rest, cs = c :: rest ∧ (c ≠ 'u' ∧ c ≠ 'x') ∧ Scanned allowed rest) ∨
      ∃ e rest, cs = e.text ++ rest ∧ allowed e rest ∧ Scanned allowed rest := by
  cases scanned with
  | plain _ _ other _ => exact absurd rfl other
  | single c cs notUnit notByte rest => exact .inl ⟨c, cs, rfl, ⟨notUnit, notByte⟩, rest⟩
  | code e cs formed rest => exact .inr ⟨e, cs, rfl, formed, rest⟩

theorem code_begins (e : CodeEscape) (c : Char) (left right : List Char)
    (same : e.text ++ left = c :: right) : c = 'u' ∨ c = 'x' := by
  cases e with
  | byte digits => exact .inr (List.cons.inj same).1.symm
  | unit digits => exact .inl (List.cons.inj same).1.symm
  | point digits closed => exact .inl (List.cons.inj same).1.symm

-- Where an escape with a code stands, complete text reads this very escape.
theorem complete_code (e : CodeEscape) (cs : List Char) (framed : e.Framed cs)
    (whole : EscapesComplete ('\\' :: (e.text ++ cs))) : e.Complete ∧ EscapesComplete cs := by
  rcases scanned_escape _ _ whole with ⟨c, rest, same, ⟨notUnit, notByte⟩, -⟩ |
    ⟨other, rest, same, complete, inner⟩
  · rcases code_begins e c cs rest same with unit | byte
    · exact absurd unit notUnit
    · exact absurd byte notByte
  · obtain ⟨rfl, rfl⟩ :=
      framed_unique e other cs rest framed (complete_framed other rest complete) same
    exact ⟨complete, inner⟩

theorem complete_rest (before rest : List Char) (first : EscapesComplete before)
    (whole : EscapesComplete (before ++ rest)) : EscapesComplete rest := by
  induction first with
  | done => exact whole
  | plain c cs other _ ih => exact ih (scanned_plain _ c _ other whole)
  | single c cs notUnit notByte _ ih =>
      rcases scanned_escape _ _ whole with ⟨c', cs', same, -, inner⟩ | ⟨e, cs', same, -⟩
      · cases same
        exact ih inner
      · rcases code_begins e c _ _ same.symm with unit | byte
        · exact absurd unit notUnit
        · exact absurd byte notByte
  | code e cs formed _ ih =>
      rw [List.cons_append, List.append_assoc] at whole
      exact ih (complete_code e _ (complete_framed e _ formed) whole).2

theorem complete_iff_no_slip (text : List Char) (readable : EscapesReadable text) :
    EscapesComplete text ↔ ¬ Slips text := by
  constructor
  · rintro complete ⟨before, e, after, rfl, first, formed, slipped⟩
    have rest := complete_rest before _ first complete
    exact complete_not_slipped e (complete_code e after (readable_framed e after formed) rest).1
      slipped
  · exact fun straight => (slips_or_complete text readable).resolve_right straight

end Slips

end FlowDefs.Text
