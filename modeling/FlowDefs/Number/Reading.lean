import FlowDefs.Number.Binary64
set_option autoImplicit false

namespace FlowDefs.Number

def digitValue? (radix : Nat) (c : Char) : Option Nat :=
  let value :=
    if '0' ≤ c ∧ c ≤ '9' then some (c.toNat - '0'.toNat)
    else if 'a' ≤ c ∧ c ≤ 'f' then some (c.toNat - 'a'.toNat + 10)
    else if 'A' ≤ c ∧ c ≤ 'F' then some (c.toNat - 'A'.toNat + 10)
    else none
  value.filter (· < radix)

-- Each digit multiplies the value so far and is added to it; both steps round.
def accumulate (radix : Nat) : Binary64 → List Char → Option Binary64
  | acc, [] => some acc
  | acc, c :: cs => do
    let digit ← digitValue? radix c
    accumulate radix ((acc.times radix).plus digit) cs

def readRadix (radix : Nat) : List Char → Option Binary64
  | [] => none
  | cs => accumulate radix .zero cs

def natOfDigits (cs : List Char) : Nat :=
  cs.foldl (fun n c => 10 * n + (c.toNat - '0'.toNat)) 0

-- `digits * 10 ^ exponent`. Outside the exponents of binary64 the answer is known from the
-- length alone, and the power is never formed.
def scale (negative : Bool) (digits : Nat) (exponent : Int) : Binary64 :=
  let leading := exponent + (Nat.toDigits 10 digits).length
  if digits = 0 ∨ leading < -400 then .finite negative 0
  else if 400 < leading then .infinite negative
  else .ofRatio negative (digits * Nat.pow 10 exponent.toNat) (Nat.pow 10 (-exponent).toNat)

def splitSign : List Char → Bool × List Char
  | '-' :: cs => (true, cs)
  | '+' :: cs => (false, cs)
  | cs => (false, cs)

def readExponent : List Char → Option Int
  | [] => some 0
  | c :: cs =>
    let (negative, digits) := splitSign cs
    if (c = 'e' ∨ c = 'E') ∧ digits ≠ [] ∧ digits.all Char.isDigit then
      some (if negative then -(natOfDigits digits : Int) else natOfDigits digits)
    else none

-- Digits around an optional point, at least one of them, then an optional exponent.
def readMagnitude (negative : Bool) (cs : List Char) : Option Binary64 :=
  let whole := cs.takeWhile Char.isDigit
  let (fraction, rest) := match cs.dropWhile Char.isDigit with
    | '.' :: rest => (rest.takeWhile Char.isDigit, rest.dropWhile Char.isDigit)
    | rest => ([], rest)
  if whole.isEmpty && fraction.isEmpty then none
  else (readExponent rest).map fun exponent =>
    scale negative (natOfDigits (whole ++ fraction)) (exponent - fraction.length)

def readDecimal (cs : List Char) : Option Binary64 :=
  let (negative, rest) := splitSign cs
  if rest = ['i', 'n', 'f'] ∨ rest = ['i', 'n', 'f', 'i', 'n', 'i', 't', 'y'] then
    some (.infinite negative)
  else if rest = ['n', 'a', 'n'] then some .nan
  else readMagnitude negative rest

def isOctalDigit (c : Char) : Bool := '0' ≤ c && c ≤ '7'

def normalize (text : String) : List Char :=
  (text.toList.filter (· ≠ '_')).map Char.toLower

def readLiteral (text : String) : Option Binary64 :=
  match normalize text with
  | '0' :: 'x' :: digits => readRadix 16 digits
  | '0' :: 'o' :: digits => readRadix 8 digits
  | '0' :: 'b' :: digits => readRadix 2 digits
  | '0' :: d :: digits =>
    if (d :: digits).all isOctalDigit then readRadix 8 (d :: digits)
    else readDecimal ('0' :: d :: digits)
  | cs => readDecimal cs

end FlowDefs.Number
