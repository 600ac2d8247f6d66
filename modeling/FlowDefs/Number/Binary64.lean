set_option autoImplicit false

namespace FlowDefs.Number

-- Every finite value is a whole number of units of 2^-1074, the least positive one.
inductive Binary64 where
  | nan
  | infinite (negative : Bool)
  | finite (negative : Bool) (units : Nat)
deriving DecidableEq, Repr

namespace Binary64

def unitsPerOne : Nat := Nat.pow 2 1074

-- The first power of two that no finite value reaches: 2^1024.
def overflow : Nat := Nat.pow 2 2098

-- Nearest whole quotient; a half goes to the even neighbour.
def divEven (num den : Nat) : Nat :=
  let q := num / den
  let r := num % den
  if 2 * r < den ∨ (2 * r = den ∧ q % 2 = 0) then q else q + 1

-- Distance between neighbouring values at this magnitude: 53 significant bits are kept.
def spacing (units : Nat) : Nat := Nat.pow 2 (units.log2 - 52)

-- The number of values between neighbouring powers of two: 2^52.
def perBinade : Nat := 0x10000000000000

def roundUnits (num den : Nat) : Nat :=
  let step := spacing (num / den)
  divEven num (den * step) * step

def ofUnits (negative : Bool) (num den : Nat) : Binary64 :=
  let units := roundUnits num den
  if units < overflow then .finite negative units else .infinite negative

def ofRatio (negative : Bool) (num den : Nat) : Binary64 :=
  ofUnits negative (num * unitsPerOne) den

def zero : Binary64 := .finite false 0

def ofNat (n : Nat) : Binary64 := ofRatio false n 1

def neg : Binary64 → Binary64
  | .nan => .nan
  | .infinite negative => .infinite !negative
  | .finite negative units => .finite (!negative) units

def times (k : Nat) : Binary64 → Binary64
  | .finite negative units => ofUnits negative (units * k) 1
  | x => x

-- Sum with a whole number, rounded. Only values that are not negative are summed here.
def plus (k : Nat) : Binary64 → Binary64
  | .finite _ units => ofUnits false (units + k * unitsPerOne) 1
  | x => x

-- Magnitudes in order have consecutive encodings.
def encodeUnits (units : Nat) : Nat :=
  if units < perBinade then units
  else (units.log2 - 51) * perBinade + (units / spacing units - perBinade)

def signBit (negative : Bool) : Nat := if negative then 0x8000000000000000 else 0

def bits : Binary64 → Nat
  | .nan => 0x7FF8000000000000
  | .infinite negative => signBit negative + 0x7FF0000000000000
  | .finite negative units => signBit negative + encodeUnits units

end Binary64

end FlowDefs.Number
