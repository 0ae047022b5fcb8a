import SchemaInterfaces.Proofs.ShortestDigits

/-! The digits that a magnitude is written with are the fewest that are rounded to it. -/
namespace SchemaInterfaces.Decimal

variable {x : Binary} {d : Digits} {tie : Tie} {v : ℚ}

open Binary

/-! Digits without zeros at the end. -/

theorem dropZeros_digits {fuel : Nat} (hpos : 0 < d.digits) (hfuel : d.digits < 10 ^ fuel) :
    (dropZeros fuel d).digits % 10 ≠ 0 ∧ (dropZeros fuel d).digits ≤ d.digits := by
  induction fuel generalizing d with
  | zero => omega
  | succ fuel ih =>
    rw [dropZeros]
    split
    · rename_i h
      have hdigits := ih (d := ⟨d.digits / 10, d.exp + 1⟩) (by dsimp only; omega)
        (by dsimp only; omega)
      exact ⟨hdigits.1, hdigits.2.trans (Nat.div_le_self _ _)⟩
    · rename_i h
      exact ⟨fun hzero => h ⟨hpos.ne', hzero⟩, le_refl _⟩

theorem exp_le_of_value_eq {e : Digits} (hd : d.digits % 10 ≠ 0) (h : d.value = e.value) :
    e.exp ≤ d.exp := by
  by_contra hlt
  obtain ⟨k, hk⟩ := Int.eq_ofNat_of_zero_le (by omega : 0 ≤ e.exp - d.exp - 1)
  have hpow : (0 : ℚ) < 10 ^ d.exp := by positivity
  have hexp : e.exp = d.exp + ((k + 1 : Nat) : Int) := by omega
  rw [Digits.value, Digits.value, hexp, zpow_add₀ (by norm_num), zpow_natCast, mul_left_comm,
    mul_comm, mul_right_inj' hpow.ne'] at h
  have hmul : d.digits = e.digits * 10 ^ (k + 1) := by exact_mod_cast h
  rw [hmul, pow_succ, ← mul_assoc, Nat.mul_mod_left] at hd
  exact hd rfl

/-- A number has one form without zeros at the end. -/
theorem digits_eq_of_value_eq {e : Digits} (hd : d.digits % 10 ≠ 0) (he : e.digits % 10 ≠ 0)
    (h : d.value = e.value) : d.digits = e.digits := by
  have hexp : d.exp = e.exp :=
    le_antisymm (exp_le_of_value_eq he h.symm) (exp_le_of_value_eq hd h)
  have hpow : (0 : ℚ) < 10 ^ e.exp := by positivity
  rw [Digits.value, Digits.value, hexp, mul_left_inj' hpow.ne'] at h
  exact_mod_cast h

/-- The number of digits without the zeros at the end. -/
def Digits.significant (d : Digits) : Nat := digitCount (dropZeros (digitCount d.digits) d).digits

theorem significant_pos (d : Digits) : 0 < d.significant := Nat.length_toDigits_pos

theorem significant_of_zero (h : d.digits = 0) : d.significant = 1 := by
  have hcount : digitCount 0 = 1 := by decide
  rw [Digits.significant, h, hcount, dropZeros, if_neg (fun hne => hne.1 h), h, hcount]

theorem digits_pos_iff : 0 < d.digits ↔ 0 < d.value := by
  rw [Digits.value, mul_pos_iff_of_pos_right (by positivity), Nat.cast_pos]

/-- The significant digits of a number are its own, however it is written. -/
theorem significant_congr {e : Digits} (hd : 0 < d.digits) (h : d.value = e.value) :
    d.significant = e.significant := by
  have he : 0 < e.digits := by rwa [digits_pos_iff, ← h, ← digits_pos_iff]
  rw [Digits.significant, Digits.significant]
  refine congrArg digitCount (digits_eq_of_value_eq ?_ ?_ ?_)
  · exact (dropZeros_digits hd (digitCount_bounds hd).2.1).1
  · exact (dropZeros_digits he (digitCount_bounds he).2.1).1
  · rw [value_dropZeros, value_dropZeros, h]

/-! The grids. -/

theorem div_bounds {a b : Nat} (hb : 0 < b) : ((a / b : Nat) : ℚ) ≤ a / b ∧
    (a : ℚ) / b < (a / b : Nat) + 1 := by
  have hb' : (0 : ℚ) < b := by exact_mod_cast hb
  refine ⟨Nat.cast_div_le, ?_⟩
  rw [div_lt_iff₀ hb']
  exact_mod_cast Nat.lt_mul_of_div_lt (Nat.lt_succ_self _) hb

namespace Binary

theorem unitsOf_bounds (x : Binary) (exp : Int) :
    (x.unitsOf exp : ℚ) * 10 ^ exp ≤ x.value ∧ x.value < (x.unitsOf exp + 1) * 10 ^ exp := by
  have hten : (0 : ℚ) < 10 ^ exp := by positivity
  have hpos : 0 < Nat.pow 2 (-x.q).toNat * Nat.pow 10 exp.toNat :=
    Nat.mul_pos (Nat.pow_pos (by decide)) (Nat.pow_pos (by decide))
  have hratio : ((x.m * Nat.pow 2 x.q.toNat * Nat.pow 10 (-exp).toNat : Nat) : ℚ) /
      (Nat.pow 2 (-x.q).toNat * Nat.pow 10 exp.toNat : Nat) = x.value / 10 ^ exp := by
    rw [value, zpow_eq_div 2 x.q, zpow_eq_div 10 exp]
    push_cast [Nat.pow_eq]
    field_simp
  obtain ⟨hlow, hhigh⟩ := div_bounds (a := x.m * Nat.pow 2 x.q.toNat * Nat.pow 10 (-exp).toNat) hpos
  rw [hratio] at hlow hhigh
  exact ⟨(le_div_iff₀ hten).mp hlow, (div_lt_iff₀ hten).mp hhigh⟩

/-- The place of the first digit, counted after a shift that brings it before the point. -/
theorem scale_bounds_shifted {p k : Nat} (hp : p = Nat.pow 10 k) (hk : 1 ≤ x.value * 10 ^ k) :
    (10 : ℚ) ^ ((digitCount (x.m * p * Nat.pow 2 x.q.toNat / Nat.pow 2 (-x.q).toNat) : Int) -
        k - 1) ≤ x.value ∧
      x.value < 10 ^ ((digitCount (x.m * p * Nat.pow 2 x.q.toNat /
        Nat.pow 2 (-x.q).toNat) : Int) - k) := by
  have hpos : 0 < Nat.pow 2 (-x.q).toNat := Nat.pow_pos (by decide)
  have hratio : ((x.m * p * Nat.pow 2 x.q.toNat : Nat) : ℚ) /
      (Nat.pow 2 (-x.q).toNat : Nat) = x.value * 10 ^ k := by
    rw [value, zpow_eq_div 2 x.q, hp]
    push_cast [Nat.pow_eq]
    field_simp
  obtain ⟨hlow, hhigh⟩ := div_bounds (a := x.m * p * Nat.pow 2 x.q.toNat) hpos
  rw [hratio] at hlow hhigh
  generalize x.m * p * Nat.pow 2 x.q.toNat / Nat.pow 2 (-x.q).toNat = n at *
  have hn : 0 < n := by
    have hlt : ((1 : Nat) : ℚ) < (n + 1 : Nat) := by
      push_cast
      linarith
    have hlt' : 1 < n + 1 := by exact_mod_cast hlt
    omega
  obtain ⟨hleast, hmost⟩ := decimal_bounds hn 0
  rw [zpow_zero, mul_one, add_zero] at hleast hmost
  have hten : (0 : ℚ) < 10 ^ k := by positivity
  constructor
  · rw [sub_right_comm, zpow_sub₀ (by norm_num), zpow_natCast, div_le_iff₀ hten]
    exact hleast.trans hlow
  · rw [zpow_sub₀ (by norm_num), zpow_natCast 10 k, lt_div_iff₀ hten]
    have hsucc : (n : ℚ) + 1 ≤ 10 ^ (digitCount n : Int) := by
      rw [zpow_natCast] at hmost ⊢
      exact_mod_cast hmost
    exact hhigh.trans_le hsucc

/-- The scale is the place of the first digit. -/
theorem scale_bounds (hx : x.Canonical) (hm : 0 < x.m) :
    (10 : ℚ) ^ (x.scale - 1) ≤ x.value ∧ x.value < 10 ^ x.scale := by
  have hleast : (2 : ℚ) ^ (-1074 : Int) ≤ x.value := by
    have hm' : (1 : ℚ) ≤ x.m := by exact_mod_cast hm
    calc (2 : ℚ) ^ (-1074 : Int) ≤ 2 ^ x.q := zpow_le_zpow_right₀ (by norm_num) hx.least
      _ ≤ x.m * 2 ^ x.q := le_mul_of_one_le_left (by positivity) hm'
  have hnat : (2 : Nat) ^ 1074 ≤ 10 ^ 400 := by decide +kernel
  have hbig : (1 : ℚ) ≤ 2 ^ (-1074 : Int) * 10 ^ 400 := by
    rw [zpow_neg, ← div_eq_inv_mul, le_div_iff₀ (by positivity), one_mul]
    exact_mod_cast hnat
  have hshift := hbig.trans (mul_le_mul_of_nonneg_right hleast (by positivity))
  -- The power is left as it is: nothing compares it with its value.
  have hbounds : ∀ p, p = Nat.pow 10 400 → _ := fun p hp => scale_bounds_shifted hp hshift
  exact hbounds _ rfl

/-- What lies between two numbers that a magnitude attracts is attracted too. -/
theorem Attracts.between {a b : ℚ} (ha : x.Attracts a) (hb : x.Attracts b) (hav : a ≤ v)
    (hvb : v ≤ b) : x.Attracts v := by
  constructor
  · rcases ha.above with h | ⟨heven, h⟩
    · exact .inl (h.trans_le hav)
    · exact (h.le.trans hav).lt_or_eq.imp_right fun h => ⟨heven, h⟩
  · rcases hb.below with h | ⟨heven, h⟩
    · exact .inl (hvb.trans_lt h)
    · exact (hvb.trans h.le).lt_or_eq.imp_right fun h => ⟨heven, h⟩

theorem readsBack_of_onGrid?_eq_none {exp : Int} (h : x.onGrid? tie exp = none) :
    x.readsBack ⟨x.unitsOf exp, exp⟩ = false ∧ x.readsBack ⟨x.unitsOf exp + 1, exp⟩ = false := by
  unfold onGrid? at h
  dsimp only at h
  split at h
  · rename_i hbelow habove
    exact ⟨hbelow, habove⟩
  · contradiction
  · contradiction
  · split at h
    · contradiction
    · contradiction
    · split at h <;> contradiction

/-- The neighbour that is taken is one of the two on the grid. -/
theorem eq_of_onGrid? {exp : Int} (h : x.onGrid? tie exp = some d) :
    d = ⟨x.unitsOf exp, exp⟩ ∨ d = ⟨x.unitsOf exp + 1, exp⟩ := by
  unfold onGrid? at h
  dsimp only at h
  split at h
  · contradiction
  · exact .inl (Option.some.inj h).symm
  · exact .inr (Option.some.inj h).symm
  · split at h
    · exact .inl (Option.some.inj h).symm
    · exact .inr (Option.some.inj h).symm
    · split at h
      · exact .inr (Option.some.inj h).symm
      · exact .inl (Option.some.inj h).symm

/-- A grid with any number that reads back has a neighbour that does. -/
theorem exists_onGrid? (tie : Tie) (hm : 0 < x.m) {n : Nat} {exp : Int}
    (h : x.Attracts (n * 10 ^ exp)) : ∃ d, x.onGrid? tie exp = some d := by
  obtain ⟨hlow, hhigh⟩ := unitsOf_bounds x exp
  have hten : (0 : ℚ) < 10 ^ exp := by positivity
  refine Option.ne_none_iff_exists'.mp fun hnone => ?_
  obtain ⟨hbelow, habove⟩ := readsBack_of_onGrid?_eq_none hnone
  obtain hle | hlt := Nat.lt_or_ge (x.unitsOf exp) n
  · have hsucc : ((x.unitsOf exp + 1 : Nat) : ℚ) ≤ n := by exact_mod_cast hle
    have hattracts : x.Attracts (Digits.value ⟨x.unitsOf exp + 1, exp⟩) := by
      refine (attracts_value x).between h ?_ (mul_le_mul_of_nonneg_right hsucc hten.le)
      rw [Digits.value, Nat.cast_succ]
      exact hhigh.le
    rw [(readsBack_iff hm).mpr hattracts] at habove
    contradiction
  · have hcast : (n : ℚ) ≤ x.unitsOf exp := by exact_mod_cast hlt
    have hattracts : x.Attracts (Digits.value ⟨x.unitsOf exp, exp⟩) :=
      h.between (attracts_value x) (mul_le_mul_of_nonneg_right hcast hten.le) hlow
    rw [(readsBack_iff hm).mpr hattracts] at hbelow
    contradiction

/-- Some multiple of the grid's unit reads back. -/
def Hits (x : Binary) (exp : Int) : Prop := ∃ n : Nat, x.Attracts (n * 10 ^ exp)

/-- What is attracted lies on a grid of no more digits than it has. Where it has another size than
the magnitude, a power of ten lies between the two. -/
theorem hits_of_attracts (hx : x.Canonical) (hm : 0 < x.m) (hd : 0 < d.digits)
    (h : x.Attracts d.value) : ∃ c : Nat, 0 < c ∧ c ≤ digitCount d.digits ∧ x.Hits (x.scale - c) := by
  obtain ⟨hlow, hhigh⟩ := scale_bounds hx hm
  obtain ⟨hleast, hmost⟩ := decimal_bounds hd d.exp
  have hcount := (digitCount_bounds hd).2.2
  have hself := attracts_value x
  rcases lt_trichotomy (digitCount d.digits + d.exp : Int) x.scale with hlt | heq | hgt
  · refine ⟨1, one_pos, hcount, 1, ?_⟩
    have hpow : (10 : ℚ) ^ (digitCount d.digits + d.exp : Int) ≤ 10 ^ (x.scale - 1) :=
      zpow_le_zpow_right₀ (by norm_num) (by omega)
    rw [Nat.cast_one, one_mul, Nat.cast_one]
    exact h.between hself (hmost.le.trans hpow) hlow
  · refine ⟨digitCount d.digits, hcount, le_refl _, d.digits, ?_⟩
    rw [← heq, add_sub_cancel_left]
    exact h
  · refine ⟨1, one_pos, hcount, 10, ?_⟩
    have hpow : (10 : ℚ) ^ x.scale ≤ 10 ^ (digitCount d.digits + d.exp - 1 : Int) :=
      zpow_le_zpow_right₀ (by norm_num) (by omega)
    have hten : ((10 : Nat) : ℚ) * 10 ^ (x.scale - (1 : Nat)) = 10 ^ x.scale := by
      rw [Nat.cast_ofNat, Nat.cast_one, ← zpow_one_add₀ (by norm_num), add_sub_cancel]
    rw [hten]
    exact hself.between h hhigh.le (hpow.trans hleast)

/-- Half a unit of the grid of seventeen digits is less than the way to what rounds elsewhere. -/
theorem half_lt (hx : x.Canonical) (hm : 0 < x.m) :
    (10 : ℚ) ^ (x.scale - (17 : Nat)) / 2 < x.value - x.low ∧
      (10 : ℚ) ^ (x.scale - (17 : Nat)) / 2 < x.high - x.value := by
  have hpow : (0 : ℚ) < 2 ^ x.q := by positivity
  have hunit : (10 : ℚ) ^ (x.scale - (17 : Nat)) * 10 ^ 16 ≤ x.m * 2 ^ x.q := by
    rw [← zpow_natCast, ← zpow_add₀ (by norm_num)]
    refine le_of_eq_of_le ?_ (scale_bounds hx hm).1
    congr 1
    push_cast
    omega
  have hbits : (x.m : ℚ) * 2 ^ x.q ≤ 2 ^ 53 * 2 ^ x.q := by
    have hbits : (x.m : ℚ) ≤ 2 ^ 53 := by exact_mod_cast hx.bits.le
    gcongr
  generalize (10 : ℚ) ^ (x.scale - (17 : Nat)) = unit at *
  rw [value, low, high]
  constructor
  · split
    · rename_i hnarrow
      rw [narrowBelow, decide_eq_true_iff] at hnarrow
      have hm' : (x.m : ℚ) = 2 ^ 52 := by
        rw [hnarrow.1]
        norm_num
      rw [hm'] at hunit ⊢
      linarith
    · linarith
  · linarith

/-- Seventeen digits suffice. -/
theorem hits_seventeen (hx : x.Canonical) (hm : 0 < x.m) : x.Hits (x.scale - (17 : Nat)) := by
  obtain ⟨hlow, hhigh⟩ := unitsOf_bounds x (x.scale - (17 : Nat))
  obtain ⟨hbelow, habove⟩ := half_lt hx hm
  unfold Hits
  generalize x.unitsOf (x.scale - (17 : Nat)) = n at *
  generalize (10 : ℚ) ^ (x.scale - (17 : Nat)) = unit at *
  obtain hnear | hnear := le_total (x.value - n * unit) (unit / 2)
  · exact ⟨n, .inl (by linarith), .inl (by linarith)⟩
  · refine ⟨n + 1, .inl ?_, .inl ?_⟩ <;> push_cast <;> linarith

end Binary

/-- Where a function gives something at a number, it first does so there or before. -/
theorem exists_findSome?_range {f : Nat → Option Digits} {n k : Nat} (hk : k < n)
    (h : f k = some d) : ∃ j ≤ k, ∃ e, f j = some e ∧ (List.range n).findSome? f = some e := by
  induction n with
  | zero => omega
  | succ n ih =>
    rw [List.range_succ, List.findSome?_append]
    cases hfirst : (List.range n).findSome? f with
    | none =>
      obtain rfl | hlt := Nat.eq_or_lt_of_le (Nat.le_of_lt_succ hk)
      · exact ⟨k, le_refl _, d, h, by simp [h]⟩
      · obtain ⟨j, -, e, -, hsome⟩ := ih hlt
        rw [hfirst] at hsome
        contradiction
    | some e =>
      obtain hlt | hge := Nat.lt_or_ge k n
      · obtain ⟨j, hj, e', hje, hsome⟩ := ih hlt
        rw [hfirst] at hsome
        exact ⟨j, hj, e', hje, hsome⟩
      · obtain ⟨j, hj, hje⟩ := List.exists_of_findSome?_eq_some hfirst
        rw [List.mem_range] at hj
        exact ⟨j, by omega, e, hje, rfl⟩

/-- Where a grid is hit, the digits are those on it or on one before. -/
theorem onGrids_of_hit {f : Nat → Int} {n k : Nat} (hk : k < n)
    (h : x.onGrid? tie (f k) = some d) : ∃ j ≤ k, ∃ e, x.onGrid? tie (f j) = some e ∧
      x.onGrids tie ((List.range n).map f) = dropZeros (digitCount e.digits) e := by
  obtain ⟨j, hj, e, hgrid, hsome⟩ :=
    exists_findSome?_range (f := fun k => x.onGrid? tie (f k)) hk h
  refine ⟨j, hj, e, hgrid, ?_⟩
  rw [onGrids, List.findSome?_map]
  unfold Function.comp
  rw [hsome]

/-- A grid of a scale has no more than so many digits. -/
theorem significant_onGrid? (hx : x.Canonical) (hm : 0 < x.m) {c : Nat} (hc : 0 < c)
    (h : x.onGrid? tie (x.scale - c) = some d) : d.significant ≤ c := by
  have hattracts := (readsBack_iff hm).mp (readsBack_of_onGrid? h)
  have hpos := digits_pos_iff.mpr (hattracts.pos hm)
  have hunits : x.unitsOf (x.scale - c) < 10 ^ c := by
    have hten : (0 : ℚ) < 10 ^ (x.scale - c) := by positivity
    have hlt := (unitsOf_bounds x (x.scale - c)).1.trans_lt (scale_bounds hx hm).2
    have hpow : (10 : ℚ) ^ x.scale = 10 ^ c * 10 ^ (x.scale - c) := by
      rw [← zpow_natCast, ← zpow_add₀ (by norm_num), add_sub_cancel]
    rw [hpow] at hlt
    exact_mod_cast lt_of_mul_lt_mul_right hlt hten.le
  have hle : d.digits ≤ 10 ^ c := by
    rcases eq_of_onGrid? h with rfl | rfl
    · exact hunits.le
    · exact hunits
  obtain ⟨hdrop, hdrop'⟩ := dropZeros_digits hpos (digitCount_bounds hpos).2.1
  refine (Nat.length_toDigits_le_iff (by decide) hc).mpr (lt_of_le_of_ne (hdrop'.trans hle) ?_)
  intro heq
  rw [heq] at hdrop
  exact hdrop (Nat.mod_eq_zero_of_dvd (dvd_pow_self 10 hc.ne'))

/-- No digits that a magnitude attracts are fewer than those it is written with. -/
theorem significant_shortest_le (tie : Tie) (hx : x.Canonical) (hm : 0 < x.m)
    (h : x.Attracts d.value) : (shortest tie x).significant ≤ d.significant := by
  have hdrop : x.Attracts (dropZeros (digitCount d.digits) d).value := by rwa [value_dropZeros]
  have hdigits := digits_pos_iff.mpr (hdrop.pos hm)
  obtain ⟨c, hc, hle, hhit⟩ := hits_of_attracts hx hm hdigits hdrop
  obtain ⟨k, hk, hkc, n, hn⟩ : ∃ k < 17, k + 1 ≤ c ∧ x.Hits (x.scale - (k + 1 : Nat)) := by
    obtain hfew | hmany := le_total c 17
    · obtain ⟨k, rfl⟩ := Nat.exists_eq_add_one.mpr hc
      exact ⟨k, hfew, le_refl _, hhit⟩
    · exact ⟨16, by decide, hmany, hits_seventeen hx hm⟩
  obtain ⟨first, hfirst⟩ := exists_onGrid? tie hm hn
  obtain ⟨j, hj, e, hgrid, hsome⟩ :=
    onGrids_of_hit (f := fun k => x.scale - (k + 1 : Nat)) hk hfirst
  have hvalue : (shortest tie x).value = e.value := by rw [shortest, hsome, value_dropZeros]
  rw [significant_congr (digits_shortest_pos tie hm) hvalue]
  exact (significant_onGrid? hx hm j.succ_pos hgrid).trans
    ((Nat.succ_le_succ hj).trans (hkc.trans hle))

end SchemaInterfaces.Decimal
