import FlowDefs.Number.Binary64
import Mathlib.Algebra.Group.Nat.Defs
set_option autoImplicit false

namespace FlowDefs.Number.Binary64

-- The whole number itself, nothing rounded off.
def whole (n : Nat) : Binary64 := .finite false (n * unitsPerOne)

theorem whole_zero : whole 0 = zero := by rw [whole, Nat.zero_mul, zero]

theorem div_even_exact (q d : Nat) (positive : 0 < d) : divEven (q * d) d = q := by
  have noRest : 2 * (q * d % d) < d := by rwa [Nat.mul_mod_left]
  rw [divEven, if_pos (.inl noRest), Nat.mul_div_cancel q positive]

theorem spacing_positive (units : Nat) : 0 < spacing units := Nat.two_pow_pos _

theorem round_kept (units : Nat) (aligned : spacing units ∣ units) :
    roundUnits units 1 = units := by
  obtain ⟨q, same⟩ := aligned
  rw [roundUnits, Nat.div_one, Nat.one_mul]
  calc divEven units (spacing units) * spacing units
    _ = divEven (q * spacing units) (spacing units) * spacing units := by
        rw [Nat.mul_comm q, ← same]
    _ = q * spacing units := by rw [div_even_exact q _ (spacing_positive units)]
    _ = units := by rw [Nat.mul_comm, ← same]

theorem units_kept (negative : Bool) (units : Nat) (aligned : spacing units ∣ units)
    (small : units < overflow) : ofUnits negative units 1 = .finite negative units := by
  rw [ofUnits, round_kept units aligned, if_pos small]

theorem significand_exponent (n k : Nat) (below : n < 2 ^ 53) : (n * 2 ^ k).log2 - 52 ≤ k := by
  by_cases zero : n * 2 ^ k = 0
  · rw [zero]
    exact Nat.zero_le k
  · have reach : n * 2 ^ k < 2 ^ (53 + k) := by
      rw [Nat.pow_add]
      exact Nat.mul_lt_mul_of_pos_right below (Nat.two_pow_pos k)
    have bits := (Nat.log2_lt zero).mpr reach
    omega

-- At most 53 significant bits before `k` zeros. Below 2^53 the distance divides the power of two;
-- 2^53 itself lies in the next binade, where the distance has doubled, and is a power of two.
theorem significand_aligned (n k : Nat) (small : n ≤ 2 ^ 53) :
    spacing (n * Nat.pow 2 k) ∣ n * Nat.pow 2 k := by
  rw [Nat.pow_eq]
  by_cases power : n = 2 ^ 53
  · subst power
    have exponent : (2 ^ 53 * 2 ^ k).log2 - 52 ≤ 53 + k := by
      rw [← Nat.pow_add, Nat.log2_two_pow]
      exact Nat.sub_le _ _
    rw [← Nat.pow_add] at exponent ⊢
    exact Nat.pow_dvd_pow 2 exponent
  · have exponent := significand_exponent n k (Nat.lt_of_le_of_ne small power)
    exact Nat.dvd_mul_left_of_dvd (Nat.pow_dvd_pow 2 exponent) n

theorem significand_in_range (n k bound : Nat) (small : n ≤ 2 ^ 53) (fits : 53 + k < bound) :
    n * Nat.pow 2 k < Nat.pow 2 bound :=
  calc n * 2 ^ k
    _ ≤ 2 ^ 53 * 2 ^ k := Nat.mul_le_mul_right _ small
    _ = 2 ^ (53 + k) := (Nat.pow_add 2 53 k).symm
    _ < 2 ^ bound := Nat.pow_lt_pow_right (by decide) fits

-- The exponents are bound here, so that no later step computes numbers of this length.
theorem units_powers : ∃ k bound, unitsPerOne = Nat.pow 2 k ∧ overflow = Nat.pow 2 bound ∧
    53 + k < bound := by
  refine ⟨1074, 2098, ?_, ?_, by decide⟩
  · unfold unitsPerOne
    rfl
  · unfold overflow
    rfl

theorem whole_kept (n : Nat) (small : n ≤ 2 ^ 53) :
    ofUnits false (n * unitsPerOne) 1 = whole n := by
  obtain ⟨k, bound, one, limit, fits⟩ := units_powers
  refine units_kept false _ ?_ ?_
  · rw [one]
    exact significand_aligned n k small
  · rw [one, limit]
    exact significand_in_range n k bound small fits

theorem whole_times (n k : Nat) (small : n * k ≤ 2 ^ 53) :
    (whole n).times k = whole (n * k) := by
  rw [← whole_kept (n * k) small, whole, times, Nat.mul_right_comm]

theorem whole_plus (n k : Nat) (small : n + k ≤ 2 ^ 53) :
    (whole n).plus k = whole (n + k) := by
  rw [← whole_kept (n + k) small, whole, plus, Nat.add_mul]

-- The next whole number is halfway between two values.
example : (whole 0x20000000000000).plus 1 = whole 0x20000000000000 := by decide +kernel

end FlowDefs.Number.Binary64
