import SchemaInterfaces.Decimal.Scaling
import SchemaInterfaces.Proofs.ShortestDigits

/-! Decimals as products and quotients of magnitudes. Between numbers that are magnitudes one step is
all the rounding there is, so that the result is the nearest magnitude. -/
namespace SchemaInterfaces.Decimal

variable {x y : Binary} {d : Digits} {num den m n k : Nat} {q e : Int}

namespace Binary

/-- A quotient times a power of two, as a quotient. -/
theorem cast_rounded (num den : Nat) (q : Int) :
    ((num * Nat.pow 2 q.toNat : Nat) : ℚ) / (den * Nat.pow 2 (-q).toNat : Nat) =
      num / den * 2 ^ q := by
  rw [zpow_eq_div 2 q]
  push_cast [Nat.pow_eq]
  field_simp

theorem canonical_of_rounded? (hden : 0 < den) (h : rounded? num den q = some x) :
    x.Canonical := by
  unfold rounded? at h
  split_ifs at h with hnum
  · exact Option.some.inj h ▸ canonical_zero
  · have hpow : ∀ n, 0 < Nat.pow 2 n := fun n => Nat.pow_pos (by decide)
    exact (attracts_of_ofQuotient? (Nat.mul_pos (Nat.pos_of_ne_zero hnum) (hpow _))
      (Nat.mul_pos hden (hpow _)) h).1

theorem canonical_of_timesTens? (hx : x.Canonical) (h : x.timesTens? n = some y) :
    y.Canonical := by
  unfold timesTens? at h
  split_ifs at h
  · obtain ⟨p, -, hy⟩ := Option.bind_eq_some_iff.mp h
    exact canonical_of_rounded? one_pos hy
  · exact Option.some.inj h ▸ hx

/-- Zero attracts nothing from one on. -/
theorem Attracts.pos_of_one_le {v : ℚ} (h : x.Attracts v) (hx : x.Canonical) (hv : 1 ≤ v) :
    0 < x.m := by
  refine Nat.pos_of_ne_zero fun hzero => ?_
  have hq : x.q ≤ 0 := by
    have hnormal := hx.normal
    omega
  have hpow : (2 : ℚ) ^ x.q ≤ 1 := zpow_le_one_of_nonpos₀ (by norm_num) hq
  have hhigh := h.le_high
  rw [high, hzero, Nat.cast_zero] at hhigh
  linarith

/-- No power of ten is rounded to zero. -/
theorem pos_of_nearest?_one (h : nearest? 1 (n : Int) = some x) : 0 < x.m := by
  have hten : (1 : ℚ) ≤ (1 : Nat) * 10 ^ (n : Int) := by
    rw [Nat.cast_one, one_mul, zpow_natCast]
    exact one_le_pow₀ (by norm_num)
  unfold nearest? at h
  dsimp only at h
  rw [if_neg one_ne_zero, if_neg (by omega)] at h
  split_ifs at h
  obtain ⟨hx, hattracts⟩ := attracts_of_ofQuotient? (Nat.mul_pos one_pos (Nat.pow_pos (by decide)))
    (Nat.pow_pos (by decide)) h
  exact Attracts.pos_of_one_le (cast_decimal 1 n ▸ hattracts) hx hten

theorem canonical_of_over_ten? (h : ((nearest? 1 (n : Int)).bind x.over?) = some y) :
    y.Canonical := by
  obtain ⟨p, hp, hy⟩ := Option.bind_eq_some_iff.mp h
  exact canonical_of_rounded? (pos_of_nearest?_one hp) hy

theorem canonical_of_overTens? {hops : Nat} (hx : x.Canonical)
    (h : x.overTens? n hops = some y) : y.Canonical := by
  induction hops generalizing x with
  | zero => exact canonical_of_over_ten? h
  | succ hops ih =>
    rw [overTens?] at h
    split_ifs at h
    · exact Option.some.inj h ▸ hx
    · obtain ⟨z, hz, hy⟩ := Option.bind_eq_some_iff.mp h
      exact ih (canonical_of_over_ten? hz) hy

end Binary

open Binary

theorem canonical_of_scaled? (h : d.scaled? = some x) : x.Canonical := by
  obtain ⟨y, hy, hx⟩ := Option.bind_eq_some_iff.mp h
  have hy := canonical_of_nearest? hy
  split at hx
  · exact canonical_of_timesTens? hy hx
  · exact canonical_of_overTens? hy hx

namespace Binary

/-- Numbers up to `2 ^ 53` are magnitudes, with a power of two or without. -/
theorem exists_value_eq (hm : 0 < m) (hbits : m ≤ 2 ^ 53) (hk : k ≤ 900) :
    ∃ x : Binary, x.Canonical ∧ 0 < x.m ∧ x.value = m * 2 ^ k := by
  obtain rfl | hlt := hbits.eq_or_lt
  · refine ⟨⟨2 ^ 52, k + 1⟩, ⟨?_, by dsimp only; omega, by dsimp only; omega, .inr le_rfl⟩,
      by positivity, ?_⟩
    · exact Nat.pow_lt_pow_right (by decide) (by decide)
    · rw [value, zpow_add_one₀ two_ne_zero, zpow_natCast]
      push_cast
      ring
  · have hlog : m.log2 < 53 := (Nat.log2_lt hm.ne').mpr hlt
    have hlow : 2 ^ m.log2 ≤ m := Nat.log2_self_le hm.ne'
    have hhigh : m < 2 ^ (m.log2 + 1) := Nat.lt_log2_self
    have hpow : 2 ^ m.log2 * 2 ^ (52 - m.log2) = 2 ^ 52 := by
      rw [← pow_add]
      congr 1
      omega
    -- The bits are moved up until there are 53 of them.
    refine ⟨⟨m * 2 ^ (52 - m.log2), k - (52 - m.log2 : Nat)⟩,
      ⟨?_, by dsimp only; omega, by dsimp only; omega, .inr ?_⟩, by positivity, ?_⟩
    · calc m * 2 ^ (52 - m.log2) < 2 ^ (m.log2 + 1) * 2 ^ (52 - m.log2) :=
            Nat.mul_lt_mul_of_pos_right hhigh (by positivity)
        _ = 2 ^ 53 := by rw [pow_succ, mul_right_comm, hpow]; rfl
    · rw [← hpow]
      exact Nat.mul_le_mul_right _ hlow
    · rw [value, zpow_sub₀ two_ne_zero, zpow_natCast, zpow_natCast]
      push_cast
      field_simp

theorem nearest?_of_value (hx : x.Canonical) (hm : 0 < x.m) (h : x.value = n * 10 ^ e) :
    nearest? n e = some x :=
  nearest?_of_attracts hx hm (h ▸ attracts_value x)

/-- The powers of ten up to the twenty-second are magnitudes. -/
theorem exists_ten (hk : k ≤ 22) :
    ∃ p : Binary, nearest? 1 (k : Int) = some p ∧ 0 < p.m ∧ p.value = 10 ^ k := by
  have hfive : 5 ^ k ≤ 2 ^ 53 :=
    (Nat.pow_le_pow_right (by decide) hk).trans (by decide : 5 ^ 22 ≤ 2 ^ 53)
  obtain ⟨p, hp, hm, hvalue⟩ := exists_value_eq (m := 5 ^ k) (k := k) (by positivity) hfive
    (by omega)
  have hten : p.value = 10 ^ k := by
    rw [hvalue]
    push_cast
    rw [← mul_pow]
    norm_num
  exact ⟨p, nearest?_of_value hp hm (by simpa using hten), hm, hten⟩

theorem exists_nearest? (hn : n ≤ 2 ^ 53) : ∃ x, nearest? n 0 = some x ∧ x.value = n := by
  obtain rfl | hpos := Nat.eq_zero_or_pos n
  · exact ⟨zero, rfl, by simp [value, zero]⟩
  · obtain ⟨x, hx, hm, hvalue⟩ := exists_value_eq (k := 0) hpos hn (by decide)
    rw [pow_zero, mul_one] at hvalue
    exact ⟨x, nearest?_of_value hx hm (by simpa using hvalue), hvalue⟩

/-- In the range where its size is not looked at, a decimal is rounded as any equal quotient. -/
theorem rounded?_eq_nearest? (hden : 0 < den) (h : (num : ℚ) / den * 2 ^ q = n * 10 ^ e)
    (hlow : -330 ≤ (digitCount n + e : Int)) (hhigh : (digitCount n + e : Int) ≤ 310) :
    rounded? num den q = nearest? n e := by
  have hden' : (den : ℚ) ≠ 0 := by exact_mod_cast hden.ne'
  have hzero : num = 0 ↔ n = 0 := by
    have hsides : (num : ℚ) / den * 2 ^ q = 0 ↔ (n : ℚ) * 10 ^ e = 0 := by rw [h]
    simpa [hden', zpow_ne_zero] using hsides
  unfold rounded? nearest?
  dsimp only
  obtain hnum | hnum := Nat.eq_zero_or_pos num
  · rw [if_pos hnum, if_pos (hzero.mp hnum)]
  · have hn : 0 < n := Nat.pos_of_ne_zero (mt hzero.mpr hnum.ne')
    have htwo : ∀ i, 0 < Nat.pow 2 i := fun i => Nat.pow_pos (by decide)
    have hten : ∀ i, 0 < Nat.pow 10 i := fun i => Nat.pow_pos (by decide)
    rw [if_neg hnum.ne', if_neg hn.ne', if_neg (not_lt.mpr hlow), if_neg (not_lt.mpr hhigh)]
    refine ofQuotient?_congr (Nat.mul_pos hnum (htwo _)) (Nat.mul_pos hden (htwo _))
      (Nat.mul_pos hn (hten _)) (hten _) ?_
    rw [cast_rounded, cast_decimal, h]

theorem digitCount_bound (hn : n ≤ 2 ^ 53) : 0 < digitCount n ∧ digitCount n ≤ 16 :=
  ⟨Nat.length_toDigits_pos,
    (Nat.length_toDigits_le_iff (by decide) (by decide)).mpr (hn.trans_lt (by decide))⟩

theorem timesTens?_eq_nearest? (hx : x.value = n) (hn : n ≤ 2 ^ 53) (hk : k ≤ 22) :
    x.timesTens? k = nearest? n k := by
  obtain ⟨p, hp, -, hvalue⟩ := exists_ten hk
  have hcount := digitCount_bound hn
  rw [timesTens?, if_pos (hk.trans (by decide)), hp]
  refine rounded?_eq_nearest? one_pos ?_ (by omega) (by omega)
  calc ((x.m * p.m : Nat) : ℚ) / (1 : Nat) * 2 ^ (x.q + p.q) = x.value * p.value := by
        rw [value, value, zpow_add₀ two_ne_zero]
        push_cast
        ring
    _ = n * 10 ^ (k : Int) := by rw [hx, hvalue, zpow_natCast]

theorem overTens?_eq_nearest? (hx : x.value = n) (hn : n ≤ 2 ^ 53) (hk : k ≤ 22) :
    x.overTens? k 0 = nearest? n (-k) := by
  obtain ⟨p, hp, hm, hvalue⟩ := exists_ten hk
  have hcount := digitCount_bound hn
  rw [overTens?, hp]
  refine rounded?_eq_nearest? hm ?_ (by omega) (by omega)
  calc (x.m : ℚ) / p.m * 2 ^ (x.q - p.q) = x.value / p.value := by
        rw [value, value, zpow_sub₀ two_ne_zero]
        field_simp
    _ = n * 10 ^ (-k : Int) := by rw [hx, hvalue, zpow_neg, zpow_natCast, div_eq_mul_inv]

end Binary

/-- Digits and a power of ten that are magnitudes both are rounded once, to the nearest. -/
theorem scaled?_eq_nearest? (hdigits : d.digits ≤ 2 ^ 53) (hexp : d.exp.natAbs ≤ 22) :
    d.scaled? = nearest? d.digits d.exp := by
  obtain ⟨x, hnearest, hvalue⟩ := exists_nearest? hdigits
  rw [Digits.scaled?, hnearest, Option.bind_some]
  cases he : d.exp with
  | ofNat k =>
    rw [he] at hexp
    exact timesTens?_eq_nearest? hvalue hdigits hexp
  | negSucc k =>
    rw [he] at hexp
    have hk : k + 1 ≤ 22 := hexp
    have hrest : k % mostTens + 1 = k + 1 ∧ k / mostTens = 0 := by
      rw [mostTens]
      omega
    dsimp only
    rw [hrest.1, hrest.2]
    exact overTens?_eq_nearest? hvalue hdigits hk

end SchemaInterfaces.Decimal
