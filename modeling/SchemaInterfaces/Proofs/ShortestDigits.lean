import SchemaInterfaces.Proofs.Rounding

/-! The digits that a magnitude is written with are rounded to it again. -/
namespace SchemaInterfaces.Decimal

variable {x : Binary} {d : Digits} {tie : Tie} {v : ℚ}

/-- The number that a magnitude is. -/
def Binary.value (x : Binary) : ℚ := x.m * 2 ^ x.q

theorem value_dropZeros (fuel : Nat) (d : Digits) : (dropZeros fuel d).value = d.value := by
  induction fuel generalizing d with
  | zero => rfl
  | succ fuel ih =>
    rw [dropZeros]
    split
    · rename_i h
      have hdigits : (d.digits : ℚ) = 10 * (d.digits / 10 : Nat) := by
        have hmul : 10 * (d.digits / 10) = d.digits :=
          Nat.mul_div_cancel' (Nat.dvd_of_mod_eq_zero h.2)
        exact_mod_cast hmul.symm
      rw [ih, Digits.value, Digits.value, hdigits, zpow_add_one₀ (by norm_num)]
      ring
    · rfl

namespace Binary

/-- A neighbour is taken only if it reads back. -/
theorem readsBack_of_onGrid? {exp : Int} (h : x.onGrid? tie exp = some d) :
    x.readsBack d = true := by
  unfold onGrid? at h
  dsimp only at h
  split at h
  · contradiction
  · rename_i hbelow _
    exact Option.some.inj h ▸ hbelow
  · rename_i _ habove
    exact Option.some.inj h ▸ habove
  · rename_i hbelow habove
    split at h
    · exact Option.some.inj h ▸ hbelow
    · exact Option.some.inj h ▸ habove
    · split at h
      · exact Option.some.inj h ▸ habove
      · exact Option.some.inj h ▸ hbelow

/-- Every magnitude attracts itself. -/
theorem attracts_value (x : Binary) : x.Attracts x.value := by
  have hpow : (0 : ℚ) < 2 ^ x.q := by positivity
  refine ⟨.inl ((low_bounds x).2.trans_lt ?_), .inl ?_⟩
  · exact mul_lt_mul_of_pos_right (by linarith) hpow
  · exact mul_lt_mul_of_pos_right (by linarith) hpow

theorem Attracts.pos (h : x.Attracts v) (hm : 0 < x.m) : 0 < v := by
  have hone : (1 : ℚ) ≤ x.m := by exact_mod_cast hm
  have hpow : (0 : ℚ) < 2 ^ x.q := by positivity
  calc (0 : ℚ) < (x.m - 1 / 2) * 2 ^ x.q := mul_pos (by linarith) hpow
    _ ≤ x.low := (low_bounds x).1
    _ ≤ v := h.ge_low

/-- A magnitude as a decimal with all its digits. -/
theorem value_exact (x : Binary) :
    Digits.value ⟨x.m * Nat.pow 2 x.q.toNat * Nat.pow 5 (-x.q).toNat, min 0 x.q⟩ = x.value := by
  rw [Digits.value, value]
  obtain h | h := le_total 0 x.q
  · obtain ⟨n, hn⟩ := Int.eq_ofNat_of_zero_le h
    rw [hn]
    simp
  · obtain ⟨n, hn⟩ := Int.eq_ofNat_of_zero_le (Int.neg_nonneg_of_nonpos h)
    have hq : x.q = -n := by omega
    have hten : (10 : ℚ) ^ n = 2 ^ n * 5 ^ n := by rw [← mul_pow]; norm_num
    rw [hq]
    simp [hten]
    field_simp

end Binary

open Binary

theorem attracts_onGrids (hm : 0 < x.m) (grids : List Int) :
    x.Attracts (x.onGrids tie grids).value := by
  rw [onGrids]
  cases h : grids.findSome? (x.onGrid? tie) with
  | some d =>
    obtain ⟨exp, -, hgrid⟩ := List.exists_of_findSome?_eq_some h
    rw [value_dropZeros]
    exact (readsBack_iff hm).mp (readsBack_of_onGrid? hgrid)
  | none =>
    rw [value_exact]
    exact attracts_value x

/-- The digits of a magnitude are attracted by it. -/
theorem attracts_shortest (tie : Tie) (hm : 0 < x.m) : x.Attracts (shortest tie x).value := by
  rw [shortest]
  exact attracts_onGrids hm _

theorem digits_shortest_pos (tie : Tie) (hm : 0 < x.m) : 0 < (shortest tie x).digits := by
  have hpos := (attracts_shortest tie hm).pos hm
  refine Nat.pos_of_ne_zero fun h => ?_
  rw [Digits.value, h, Nat.cast_zero, zero_mul] at hpos
  exact lt_irrefl _ hpos

end SchemaInterfaces.Decimal
