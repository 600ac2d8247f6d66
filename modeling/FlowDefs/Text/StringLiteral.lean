set_option autoImplicit false

namespace FlowDefs.Text

inductive Piece where
  | char (c : Char)
  | code (value : Nat)
  | continuation
deriving DecidableEq, Repr

def hexValue? (c : Char) : Option Nat :=
  if '0' ≤ c ∧ c ≤ '9' then some (c.toNat - '0'.toNat)
  else if 'a' ≤ c ∧ c ≤ 'f' then some (c.toNat - 'a'.toNat + 10)
  else if 'A' ≤ c ∧ c ≤ 'F' then some (c.toNat - 'A'.toNat + 10)
  else none

def hexDigits? : Nat → List Char → Option Nat
  | acc, [] => some acc
  | acc, c :: cs => do
    let digit ← hexValue? c
    hexDigits? (16 * acc + digit) cs

-- A hexadecimal number below 2^32, at least one digit, with an optional plus sign.
def hexCode? (cs : List Char) : Option Nat :=
  let digits := match cs with
    | '+' :: rest => rest
    | _ => cs
  if digits.isEmpty then none else (hexDigits? 0 digits).filter (· < 0x100000000)

def fixedCode? (width : Nat) (cs : List Char) : Option (Piece × List Char) :=
  if width ≤ cs.length then (hexCode? (cs.take width)).map fun n => (.code n, cs.drop width)
  else none

def escape? : List Char → Option (Piece × List Char)
  | [] => none
  | 'u' :: '\x7b' :: cs =>
    (hexCode? (cs.takeWhile (· ≠ '\x7d'))).map fun n =>
      (.code n, (cs.dropWhile (· ≠ '\x7d')).drop 1)
  | 'u' :: cs => fixedCode? 4 cs
  | 'x' :: cs => fixedCode? 2 cs
  | 'n' :: cs => some (.char '\n', cs)
  | 'r' :: cs => some (.char '\r', cs)
  | 't' :: cs => some (.char '\t', cs)
  | 'b' :: cs => some (.char '\x08', cs)
  | 'f' :: cs => some (.char '\x0c', cs)
  | 'v' :: cs => some (.char '\x0b', cs)
  | '0' :: cs =>
    some (.char (if (cs.head?.map Char.isDigit).getD false then '0' else '\x00'), cs)
  | '\n' :: cs => some (.continuation, cs)
  | '\u2028' :: cs => some (.continuation, cs)
  | '\u2029' :: cs => some (.continuation, cs)
  | '\r' :: '\n' :: cs => some (.continuation, cs)
  | '\r' :: cs => some (.continuation, cs)
  | c :: cs => some (.char c, cs)

theorem fixed_code_shorter {width : Nat} {cs rest : List Char} {p : Piece}
    (h : fixedCode? width cs = some (p, rest)) : rest.length ≤ cs.length := by
  unfold fixedCode? at h
  split at h
  · obtain ⟨_, _, eq⟩ := Option.map_eq_some_iff.1 h
    cases eq
    simp
  · cases h

theorem escape_shorter {cs rest : List Char} {p : Piece} (h : escape? cs = some (p, rest)) :
    rest.length < cs.length := by
  unfold escape? at h
  split at h
  case h_1 => cases h
  case h_2 cs =>
    obtain ⟨_, _, eq⟩ := Option.map_eq_some_iff.1 h
    cases eq
    have := (List.dropWhile_suffix (l := cs) (· ≠ '\x7d')).length_le
    simp only [List.length_drop, List.length_cons]
    omega
  case h_3 => have := fixed_code_shorter h; simp only [List.length_cons]; omega
  case h_4 => have := fixed_code_shorter h; simp only [List.length_cons]; omega
  all_goals
    cases h
    simp only [List.length_cons]
    omega

-- The pieces of the text between the quotes; nothing when an escape is incomplete.
def pieces? : List Char → Option (List Piece)
  | [] => some []
  | '\\' :: cs =>
    match h : escape? cs with
    | none => none
    | some (piece, rest) =>
      have := escape_shorter h
      (pieces? rest).map (piece :: ·)
  | c :: cs => (pieces? cs).map (.char c :: ·)
termination_by cs => cs.length
decreasing_by all_goals (simp only [List.length_cons]; omega)

def replacement : Char := '\uFFFD'

def isHighSurrogate (n : Nat) : Bool := 0xD800 ≤ n && n ≤ 0xDBFF

def isLowSurrogate (n : Nat) : Bool := 0xDC00 ≤ n && n ≤ 0xDFFF

def scalar (n : Nat) : Char := if n.isValidChar then Char.ofNat n else replacement

def combine (high low : Nat) : Char :=
  scalar (0x10000 + (high - 0xD800) * 0x400 + (low - 0xDC00))

def flush : Option Nat → List Char
  | none => []
  | some _ => [replacement]

-- The characters of the pieces, after a pending high surrogate.
def assemble : Option Nat → List Piece → List Char
  | high, [] => flush high
  | high, .char c :: ps => flush high ++ c :: assemble none ps
  | high, .continuation :: ps => flush high ++ assemble none ps
  | high, .code n :: ps =>
    if isHighSurrogate n then flush high ++ assemble (some n) ps
    else if isLowSurrogate n then
      (match high with
        | some h => combine h n
        | none => replacement) :: assemble none ps
    else flush high ++ scalar n :: assemble none ps

def unquoted? : List Char → Option (List Char)
  | [] => none
  | q :: cs => if (q = '"' ∨ q = '\'') ∧ cs.getLast? = some q then some cs.dropLast else none

def decodeString (raw : String) : Option String := do
  let inner ← unquoted? raw.toList
  let pieces ← pieces? inner
  some (String.ofList (assemble none pieces))

def replaceChar (old : Char) (new : String) (text : String) : String :=
  String.ofList (text.toList.flatMap fun c => if c = old then new.toList else [c])

-- Backslashes are doubled first, so that those of the quotes stay single.
def quoteModule (name : String) : String :=
  "'" ++ replaceChar '\'' "\\'" (replaceChar '\\' "\\\\" name) ++ "'"

end FlowDefs.Text
