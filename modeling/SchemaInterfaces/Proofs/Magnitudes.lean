import Mathlib.Algebra.Order.Field.Power
import Mathlib.Algebra.Order.Ring.Rat
import Mathlib.Data.Nat.Cast.Order.Field
import Mathlib.Tactic.FieldSimp
import Mathlib.Tactic.Linarith
import Mathlib.Tactic.Ring
import SchemaInterfaces.Decimal.Shortest

/-! Binary magnitudes and decimal digits as rational numbers. -/
namespace SchemaInterfaces.Decimal

variable {x : Binary} {d : Digits} {v c : ℚ}

/-- A power of any exponent as a quotient of powers. -/
theorem zpow_eq_div (b : ℚ) (i : Int) : b ^ i = b ^ i.toNat / b ^ (-i).toNat := by
  obtain h | h := le_total 0 i
  · obtain ⟨n, rfl⟩ := Int.eq_ofNat_of_zero_le h
    simp
  · obtain ⟨n, hn⟩ := Int.eq_ofNat_of_zero_le (Int.neg_nonneg_of_nonpos h)
    have hi : i = -n := by omega
    subst hi
    simp

/-- Natural numbers compare as rational numbers of which they are the same multiple. -/
theorem compare_eq_of_pos {a b : ℚ} {m n : Nat} (hc : 0 < c) (hm : (m : ℚ) = a * c)
    (hn : (n : ℚ) = b * c) : compare m n = compare a b := by
  rcases lt_trichotomy a b with h | rfl | h
  · have hlt : m < n := by
      rw [← Nat.cast_lt (α := ℚ), hm, hn]
      exact mul_lt_mul_of_pos_right h hc
    rw [compare_lt_iff_lt.mpr hlt, compare_lt_iff_lt.mpr h]
  · have heq : m = n := by
      rw [← Nat.cast_inj (R := ℚ), hm, hn]
    rw [compare_eq_iff_eq.mpr heq, compare_eq_iff_eq.mpr rfl]
  · have hgt : n < m := by
      rw [← Nat.cast_lt (α := ℚ), hm, hn]
      exact mul_lt_mul_of_pos_right h hc
    rw [compare_gt_iff_gt.mpr hgt, compare_gt_iff_gt.mpr h]

theorem compareScaled_eq (a : Nat) (i : Int) (n : Nat) (j : Int) :
    compareScaled a i n j = compare ((a : ℚ) * 10 ^ i) (n * 2 ^ j) := by
  refine compare_eq_of_pos (c := 10 ^ (-i).toNat * 2 ^ (-j).toNat) (by positivity) ?_ ?_
  · rw [zpow_eq_div 10 i]
    push_cast [Nat.pow_eq]
    field_simp
  · rw [zpow_eq_div 2 j]
    push_cast [Nat.pow_eq]
    field_simp

/-! What rounds to a magnitude. -/

def Digits.value (d : Digits) : ℚ := d.digits * 10 ^ d.exp

namespace Binary

/-- The magnitudes that there are: of 53 bits, unless the exponent is the least. -/
structure Canonical (x : Binary) : Prop where
  bits : x.m < 2 ^ 53
  least : -1074 ≤ x.q
  most : x.q ≤ 971
  normal : x.q = -1074 ∨ 2 ^ 52 ≤ x.m

/-- Halfway to the magnitude below. -/
def low (x : Binary) : ℚ := (x.m - if x.narrowBelow then 1 / 4 else 1 / 2) * 2 ^ x.q

/-- Halfway to the magnitude above. -/
def high (x : Binary) : ℚ := (x.m + 1 / 2) * 2 ^ x.q

/-- A number between the two, or one of them if the last bit is zero. -/
structure Attracts (x : Binary) (v : ℚ) : Prop where
  above : x.low < v ∨ x.m % 2 = 0 ∧ x.low = v
  below : v < x.high ∨ x.m % 2 = 0 ∧ v = x.high

theorem Attracts.ge_low (h : x.Attracts v) : x.low ≤ v := h.above.elim le_of_lt fun h => h.2.le

theorem Attracts.le_high (h : x.Attracts v) : v ≤ x.high := h.below.elim le_of_lt fun h => h.2.le

theorem readsBack_iff (hm : 0 < x.m) : x.readsBack d = true ↔ x.Attracts d.value := by
  have hpow : (2 : ℚ) ^ (x.q - 2) = 2 ^ x.q / 4 := by
    rw [zpow_sub₀ two_ne_zero]
    norm_num
  have hlow : ((if x.narrowBelow then 4 * x.m - 1 else 4 * x.m - 2 : Nat) : ℚ) * 2 ^ (x.q - 2) =
      x.low := by
    have hone : 1 ≤ 4 * x.m := by omega
    have htwo : 2 ≤ 4 * x.m := by omega
    rw [low, hpow]
    split <;> push_cast [hone, htwo] <;> ring
  have hhigh : ((4 * x.m + 2 : Nat) : ℚ) * 2 ^ (x.q - 2) = x.high := by
    rw [high, hpow]
    push_cast
    ring
  rw [readsBack]
  simp only [compareScaled_eq, hlow, hhigh, ← Digits.value.eq_1]
  simp only [Bool.and_eq_true, Bool.or_eq_true, beq_iff_eq, compare_gt_iff_gt, compare_lt_iff_lt,
    compare_eq_iff_eq]
  constructor
  · rintro ⟨habove, hbelow⟩
    exact ⟨habove.imp_right (And.imp_right Eq.symm), hbelow⟩
  · rintro ⟨habove, hbelow⟩
    exact ⟨habove.imp_right (And.imp_right Eq.symm), hbelow⟩

end Binary
end SchemaInterfaces.Decimal
