import FlowDefs.Number.Binary64
set_option autoImplicit false

namespace FlowDefs.Number

structure Decimal where
  digits : Nat
  exponent : Int
deriving DecidableEq, Repr

namespace Decimal

def leading (d : Decimal) : Int := d.exponent + (Nat.toDigits 10 d.digits).length - 1

end Decimal

namespace Binary64

-- Bounds are counted in quarter units, so that the midpoint below a power of two is whole.
def quarters (units : Nat) : Nat := 4 * units

def upperBound (units : Nat) : Nat := quarters units + 2 * spacing units

-- Below a power of two the values lie twice as close.
def lowerBound (units : Nat) : Nat :=
  let step := spacing units
  if units = perBinade * step ∧ 1 < step then quarters units - step else quarters units - 2 * step

-- A grid point and a bound are compared after both are multiplied by 10 ^ -exponent where that
-- makes the bound whole.
def gridPoint (digits : Nat) (exponent : Int) : Nat :=
  digits * Nat.pow 10 exponent.toNat * (4 * unitsPerOne)

def onGrid (bound : Nat) (exponent : Int) : Nat := bound * Nat.pow 10 (-exponent).toNat

-- Whether `digits * 10 ^ exponent` rounds to `units`; the two midpoints go to the even value.
def readsBack (units digits : Nat) (exponent : Int) : Bool :=
  let point := gridPoint digits exponent
  let low := onGrid (lowerBound units) exponent
  let high := onGrid (upperBound units) exponent
  if units / spacing units % 2 = 0 then low ≤ point && point ≤ high
  else low < point && point < high

def nearestOnGrid? (units : Nat) (exponent : Int) : Option Nat :=
  let value := onGrid (quarters units) exponent
  let below := value / gridPoint 1 exponent
  let down := value - gridPoint below exponent
  let up := gridPoint (below + 1) exponent - value
  match readsBack units below exponent, readsBack units (below + 1) exponent with
  | false, false => none
  | true, false => some below
  | false, true => some (below + 1)
  | true, true =>
    if down < up ∨ (down = up ∧ below % 2 = 0) then some below else some (below + 1)

-- Decimal exponent of the first digit of the value; 10^-400 is below every positive value.
def decimalExponent (units : Nat) : Int :=
  ((Nat.toDigits 10 (units * Nat.pow 10 400 / unitsPerOne)).length : Int) - 401

-- Only a carry out of the first digit leaves a final zero: a longer one would have been found
-- on the grid before.
def carry (digits : Nat) (exponent : Int) : Decimal :=
  if digits % 10 = 0 then ⟨digits / 10, exponent + 1⟩ else ⟨digits, exponent⟩

-- Seventeen digits always read back.
def shortest (units : Nat) : Decimal :=
  let first := decimalExponent units
  let attempt (n : Nat) : Option Decimal :=
    (nearestOnGrid? units (first - n)).map fun digits => carry digits (first - n)
  ((List.range 17).findSome? attempt).getD ⟨0, 0⟩

end Binary64

-- The exponents of the first digit that are written positionally.
structure Layout where
  least : Int
  greatest : Int

-- Numbers in JSON are positional from 0.00001 up to sixteen digits before the point.
def Layout.json : Layout := ⟨-5, 15⟩

def zeros (n : Nat) : String := String.ofList (List.replicate n '0')

def Decimal.positional (d : Decimal) : String :=
  let digits := Nat.toDigits 10 d.digits
  if 0 ≤ d.exponent then String.ofList digits ++ zeros d.exponent.toNat ++ ".0"
  else if 0 ≤ d.leading then
    let whole := (d.leading + 1).toNat
    String.ofList (digits.take whole) ++ "." ++ String.ofList (digits.drop whole)
  else "0." ++ zeros (-d.leading - 1).toNat ++ String.ofList digits

def Decimal.scientific (d : Decimal) : String :=
  let digits := Nat.toDigits 10 d.digits
  let fraction := match digits.drop 1 with
    | [] => ""
    | rest => "." ++ String.ofList rest
  let sign := if d.leading < 0 then "-" else "+"
  String.ofList (digits.take 1) ++ fraction ++ "e" ++ sign ++ Nat.repr d.leading.natAbs

def Decimal.text (layout : Layout) (d : Decimal) : String :=
  if layout.least ≤ d.leading ∧ d.leading ≤ layout.greatest then d.positional else d.scientific

-- Text of a finite value; a zero keeps its sign.
def Binary64.text? (layout : Layout) : Binary64 → Option String
  | .finite negative units =>
    let magnitude := if units = 0 then "0.0" else (shortest units).text layout
    some (if negative then "-" ++ magnitude else magnitude)
  | _ => none

end FlowDefs.Number
