import Mathlib.Algebra.Group.Nat.Defs
import Mathlib.Data.List.Induction
import FlowDefs.Proofs.Text.Surrogates
set_option autoImplicit false

namespace FlowDefs.Text

def isHexDigit (c : Char) : Bool := (hexValue? c).isSome

def hexNumber (digits : List Char) : Nat :=
  digits.foldl (fun n c => 16 * n + (hexValue? c).getD 0) 0

-- The braces of the last escape are not part of its digits.
inductive Element where
  | plain (c : Char)
  | escaped (c : Char)
  | null
  | byte (digits : List Char)
  | unit (digits : List Char)
  | point (digits : List Char)
  | continuation (lineEnd : List Char)

namespace Element

def text : Element → List Char
  | plain c => [c]
  | escaped c => ['\\', c]
  | null => ['\\', '0']
  | byte digits => '\\' :: 'x' :: digits
  | unit digits => '\\' :: 'u' :: digits
  | point digits => '\\' :: 'u' :: '\x7b' :: digits ++ ['\x7d']
  | continuation lineEnd => '\\' :: lineEnd

def lineEnds : List (List Char) := [['\n'], ['\r', '\n'], ['\r'], ['\u2028'], ['\u2029']]

-- Digits, line ends, `u` and `x` after a backslash are no escapes of a single character; an eight
-- or a nine is.
def isEscapable (c : Char) : Bool :=
  c ∉ ['u', 'x', '\n', '\r', '\u2028', '\u2029', '0', '1', '2', '3', '4', '5', '6', '7']

def WellFormed (quote : Char) : Element → Prop
  | plain c => c ≠ '\\' ∧ c ≠ quote
  | escaped c => isEscapable c = true
  | null => True
  | byte digits => digits.length = 2 ∧ digits.all isHexDigit = true
  | unit digits => digits.length = 4 ∧ digits.all isHexDigit = true
  | point digits => digits ≠ [] ∧ digits.all isHexDigit = true ∧ hexNumber digits ≤ 0x10FFFF
  | continuation lineEnd => lineEnd ∈ lineEnds

-- What may follow: a null ends before a digit, and a line end takes a line feed after it.
def Before (following : List Char) : Element → Prop
  | null => ∀ c ∈ following.head?, c.isDigit = false
  | continuation lineEnd => lineEnd = ['\r'] → following.head? ≠ some '\n'
  | _ => True

def escapeValue : Char → Char
  | 'n' => '\n'
  | 'r' => '\r'
  | 't' => '\t'
  | 'b' => '\x08'
  | 'f' => '\x0c'
  | 'v' => '\x0b'
  | c => c

def units : Element → List Nat
  | plain c => codeUnits c.toNat
  | escaped c => codeUnits (escapeValue c).toNat
  | null => [0]
  | byte digits => [hexNumber digits]
  | unit digits => [hexNumber digits]
  | point digits => codeUnits (hexNumber digits)
  | continuation _ => []

def isContinuation : Element → Bool
  | continuation _ => true
  | _ => false

def piece : Element → Piece
  | plain c => .char c
  | escaped c => .char (escapeValue c)
  | null => .char '\x00'
  | byte digits => .code (hexNumber digits)
  | unit digits => .code (hexNumber digits)
  | point digits => .code (hexNumber digits)
  | continuation _ => .continuation

end Element

-- The text between the quotes is written with these elements.
inductive Written (quote : Char) : List Element → List Char → Prop where
  | done : Written quote [] []
  | next (e : Element) (es : List Element) (following : List Char) (formed : e.WellFormed quote)
      (before : e.Before following) (rest : Written quote es following) :
      Written quote (e :: es) (e.text ++ following)

section Reading

theorem hex_digits_value (digits : List Char) (acc : Nat)
    (hex : digits.all isHexDigit = true) :
    hexDigits? acc digits =
      some (digits.foldl (fun n c => 16 * n + (hexValue? c).getD 0) acc) := by
  induction digits generalizing acc with
  | nil => rfl
  | cons c digits ih =>
      rw [List.all_cons, Bool.and_eq_true] at hex
      obtain ⟨value, found⟩ := Option.isSome_iff_exists.mp hex.1
      rw [hexDigits?, found]
      simp only [Option.bind_eq_bind, Option.bind_some, ih _ hex.2, List.foldl_cons, found,
        Option.getD_some]

theorem hex_code_value (digits : List Char) (some : digits ≠ [])
    (hex : digits.all isHexDigit = true) (small : hexNumber digits < 0x100000000) :
    hexCode? digits = .some (hexNumber digits) := by
  cases digits with
  | nil => exact absurd rfl some
  | cons c digits =>
      have sign : c ≠ '+' := by
        rintro rfl
        simp [isHexDigit, hexValue?] at hex
      unfold hexCode?
      split
      · next rest same => exact absurd (List.cons.inj same).1 sign
      · rw [if_neg (by simp), hex_digits_value _ _ hex]
        exact Option.filter_eq_some_iff.mpr ⟨rfl, by simpa using small⟩

theorem offset_small (c first last : Char) (range : first ≤ c ∧ c ≤ last) :
    c.toNat - first.toNat ≤ last.toNat - first.toNat :=
  Nat.sub_le_sub_right range.2 first.toNat

theorem hex_value_small (c : Char) : (hexValue? c).getD 0 < 16 := by
  unfold hexValue?
  split
  · next range =>
      have offset : c.toNat - '0'.toNat ≤ 9 := offset_small c '0' '9' range
      rw [Option.getD_some]
      omega
  · split
    · next range =>
        have offset : c.toNat - 'a'.toNat ≤ 5 := offset_small c 'a' 'f' range
        rw [Option.getD_some]
        omega
    · split
      · next range =>
          have offset : c.toNat - 'A'.toNat ≤ 5 := offset_small c 'A' 'F' range
          rw [Option.getD_some]
          omega
      · exact Nat.zero_lt_succ 15

theorem hex_number_small (digits : List Char) : hexNumber digits < 16 ^ digits.length := by
  induction digits using List.reverseRecOn with
  | nil => simp [hexNumber]
  | append_singleton digits c ih =>
      have digit := hex_value_small c
      simp only [hexNumber, List.foldl_append, List.foldl_cons, List.foldl_nil,
        List.length_append, List.length_singleton, Nat.pow_succ] at ih ⊢
      omega

theorem fixed_code_value (digits following : List Char) (some : digits ≠ [])
    (short : digits.length ≤ 4) (hex : digits.all isHexDigit = true) :
    fixedCode? digits.length (digits ++ following) =
      .some (.code (hexNumber digits), following) := by
  have small : hexNumber digits < 0x100000000 :=
    Nat.lt_of_lt_of_le (hex_number_small digits)
      (Nat.le_trans (Nat.pow_le_pow_right (by decide) short) (by decide))
  rw [fixedCode?, if_pos (by simp), List.take_left', List.drop_left',
    hex_code_value digits some hex small]
  · rfl
  · rfl
  · rfl

theorem no_brace (digits : List Char) (hex : digits.all isHexDigit = true) :
    ∀ c ∈ digits, c ≠ '\x7b' ∧ c ≠ '\x7d' := by
  intro c member
  have digit := List.all_eq_true.mp hex c member
  constructor <;> (rintro rfl; simp [isHexDigit, hexValue?] at digit)

theorem escape_char (c : Char) (following : List Char) (escapable : Element.isEscapable c = true) :
    escape? (c :: following) = some (.char (Element.escapeValue c), following) := by
  simp only [Element.isEscapable, List.mem_cons, List.not_mem_nil, or_false, decide_eq_true_eq,
    not_or] at escapable
  unfold escape? Element.escapeValue
  split <;> simp_all

theorem pieces_plain (c : Char) (cs : List Char) (other : c ≠ '\\') :
    pieces? (c :: cs) = (pieces? cs).map (.char c :: ·) := by
  rw [pieces?]
  exact fun same => other same

theorem pieces_escape (cs rest : List Char) (p : Piece) (found : escape? cs = some (p, rest)) :
    pieces? ('\\' :: cs) = (pieces? rest).map (p :: ·) := by
  rw [pieces?]
  split
  · next none => rw [found] at none; cases none
  · next other => rw [found] at other; cases other; rfl

theorem pieces_element (quote : Char) (e : Element) (following : List Char)
    (formed : e.WellFormed quote) (before : e.Before following) :
    pieces? (e.text ++ following) = (pieces? following).map (e.piece :: ·) := by
  cases e with
  | plain c => exact pieces_plain c following formed.1
  | escaped c => exact pieces_escape _ _ _ (escape_char c following formed)
  | null =>
      refine pieces_escape _ _ _ ?_
      cases following with
      | nil => rfl
      | cons c following => simp [escape?, Element.piece, before c rfl]
  | byte digits =>
      obtain ⟨length, hex⟩ := formed
      have code := fixed_code_value digits following (by rintro rfl; cases length) (by omega) hex
      rw [length] at code
      exact pieces_escape ('x' :: (digits ++ following)) _ _ (by rw [escape?, code]; rfl)
  | unit digits =>
      obtain ⟨length, hex⟩ := formed
      have code := fixed_code_value digits following (by rintro rfl; cases length) (by omega) hex
      rw [length] at code
      refine pieces_escape ('u' :: (digits ++ following)) _ _ ?_
      rw [escape?, code]
      · rfl
      · intro cs same
        cases digits with
        | nil => cases length
        | cons c digits =>
            exact (no_brace _ hex c List.mem_cons_self).1 (List.cons.inj same).1
  | point digits =>
      obtain ⟨some, hex, small⟩ := formed
      have code := hex_code_value digits some hex (Nat.lt_of_le_of_lt small (by decide))
      have digit (c : Char) (member : c ∈ digits) : decide (c ≠ '\x7d') = true := by
        simpa using (no_brace digits hex c member).2
      have braced : Element.text (.point digits) ++ following =
          '\\' :: 'u' :: '\x7b' :: (digits ++ '\x7d' :: following) := by
        simp [Element.text]
      rw [braced]
      refine pieces_escape _ _ _ ?_
      rw [escape?, List.takeWhile_append_of_pos digit, List.dropWhile_append_of_pos digit]
      simp [code, Element.piece]
  | continuation lineEnd =>
      have listed : lineEnd ∈ Element.lineEnds := formed
      simp only [Element.lineEnds, List.mem_cons, List.not_mem_nil, or_false] at listed
      refine pieces_escape (lineEnd ++ following) _ _ ?_
      rcases listed with rfl | rfl | rfl | rfl | rfl
      · rfl
      · rfl
      · cases following with
        | nil => rfl
        | cons c following =>
            have other : c ≠ '\n' := fun same => before rfl (by rw [same]; rfl)
            simp [escape?, Element.piece, other]
      · rfl
      · rfl

theorem pieces_written (quote : Char) (es : List Element) (text : List Char)
    (written : Written quote es text) : pieces? text = some (es.map Element.piece) := by
  induction written with
  | done => rw [pieces?]; rfl
  | next e es following formed before rest ih =>
      rw [pieces_element quote e following formed before, ih]
      rfl

end Reading

end FlowDefs.Text
