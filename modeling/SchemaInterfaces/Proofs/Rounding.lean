import Mathlib.Tactic.SplitIfs
import SchemaInterfaces.Proofs.Magnitudes

/-! Rounding a quotient to a binary magnitude: what is found is a magnitude, and it is the one that
attracts the quotient. -/
namespace SchemaInterfaces.Decimal

variable {num den num' den' m : Nat} {x : Binary} {q p : Int} {v : ℚ}

/-- Rounded to the nearest integer, a half to the even one. -/
theorem roundDiv_eq_iff (hden : 0 < den) : roundDiv num den = m ↔
    (2 * m * den < 2 * num + den ∨ m % 2 = 0 ∧ 2 * m * den = 2 * num + den) ∧
      (2 * num < (2 * m + 1) * den ∨ m % 2 = 0 ∧ 2 * num = (2 * m + 1) * den) := by
  have hnum : den * (num / den) + num % den = num := Nat.div_add_mod num den
  have hmod : num % den < den := Nat.mod_lt num hden
  constructor
  · rintro rfl
    unfold roundDiv
    dsimp only
    split
    · have hexp : (2 * (num / den) + 1) * den = 2 * (den * (num / den)) + den := by ring
      have hexp' : 2 * (num / den) * den = 2 * (den * (num / den)) := by ring
      omega
    · have hexp : (2 * (num / den + 1) + 1) * den = 2 * (den * (num / den)) + 3 * den := by ring
      have hexp' : 2 * (num / den + 1) * den = 2 * (den * (num / den)) + 2 * den := by ring
      omega
  · rintro ⟨habove, hbelow⟩
    have hle : num / den ≤ m := by
      by_contra h
      have hmul : den * (m + 1) ≤ den * (num / den) := Nat.mul_le_mul_left den (by omega)
      have hexp : (2 * m + 1) * den + den = 2 * (den * (m + 1)) := by ring
      omega
    have hge : m ≤ num / den + 1 := by
      by_contra h
      have hmul : den * (num / den + 2) ≤ den * m := Nat.mul_le_mul_left den (by omega)
      have hexp : 2 * (den * (num / den + 2)) = 2 * (den * (num / den)) + 4 * den := by ring
      have hm : 2 * m * den = 2 * (den * m) := by ring
      omega
    unfold roundDiv
    dsimp only
    obtain rfl | hup : m = num / den ∨ m = num / den + 1 := by omega
    · have hexp : (2 * (num / den) + 1) * den = 2 * (den * (num / den)) + den := by ring
      rw [if_pos (by omega)]
    · have hexp : 2 * m * den = 2 * (den * (num / den)) + 2 * den := by
        rw [hup]
        ring
      rw [if_neg (by omega), hup]

theorem roundDiv_mul {c : Nat} (hc : 0 < c) : roundDiv (num * c) (den * c) = roundDiv num den := by
  unfold roundDiv
  dsimp only
  rw [Nat.mul_div_mul_right _ _ hc, Nat.mul_mod_mul_right, ← Nat.mul_assoc]
  simp only [Nat.mul_lt_mul_right hc, Nat.mul_left_inj hc.ne']

/-- One quotient is rounded to one integer. -/
theorem roundDiv_congr (hden : 0 < den) (hden' : 0 < den') (h : num * den' = num' * den) :
    roundDiv num den = roundDiv num' den' := by
  rw [← roundDiv_mul hden', h, Nat.mul_comm den den', roundDiv_mul hden]

namespace Binary

theorem scaled_pos (num : Nat) (hden : 0 < den) (q : Int) : 0 < (scaled num den q).2 := by
  have hpow : 0 < Nat.pow 2 q.toNat := Nat.pow_pos (by decide)
  exact Nat.mul_pos hden hpow

theorem scaled_div (num den : Nat) (q : Int) :
    ((scaled num den q).1 : ℚ) / (scaled num den q).2 = num / den / 2 ^ q := by
  rw [zpow_eq_div 2 q, scaled]
  push_cast [Nat.pow_eq]
  field_simp

/-- The exponent of the magnitudes around a quotient: it leaves 53 bits before the point, or is the
least one. -/
structure Exponent (v : ℚ) (q : Int) : Prop where
  least : -1074 ≤ q
  fits : v < 2 ^ 53 * 2 ^ q
  normal : q = -1074 ∨ 2 ^ 52 * 2 ^ q ≤ v

theorem Exponent.le (h : Exponent v q) (h' : Exponent v p) : q ≤ p := by
  by_contra hlt
  have hleast := h'.least
  obtain rfl | hnormal := h.normal
  · omega
  · have hpow : (2 : ℚ) ^ (p + 1) ≤ 2 ^ q := zpow_le_zpow_right₀ (by norm_num) (by omega)
    rw [zpow_add_one₀ two_ne_zero] at hpow
    have hfits := h'.fits
    linarith

theorem Exponent.unique (h : Exponent v q) (h' : Exponent v p) : q = p :=
  le_antisymm (h.le h') (h'.le h)

/-- The bits of a quotient, up to one. -/
theorem log2_bounds (hnum : 0 < num) (hden : 0 < den) :
    (2 : ℚ) ^ ((num.log2 : Int) - den.log2 - 1) ≤ num / den ∧
      (num : ℚ) / den < 2 ^ ((num.log2 : Int) - den.log2 + 1) := by
  have hden' : (0 : ℚ) < den := by exact_mod_cast hden
  have hnumlow : (2 : ℚ) ^ num.log2 ≤ num := by
    exact_mod_cast Nat.log2_self_le (Nat.pos_iff_ne_zero.mp hnum)
  have hnumhigh : (num : ℚ) < 2 ^ (num.log2 + 1) := by exact_mod_cast Nat.lt_log2_self
  have hdenlow : (2 : ℚ) ^ den.log2 ≤ den := by
    exact_mod_cast Nat.log2_self_le (Nat.pos_iff_ne_zero.mp hden)
  have hdenhigh : (den : ℚ) < 2 ^ (den.log2 + 1) := by exact_mod_cast Nat.lt_log2_self
  constructor
  · have hpow : (2 : ℚ) ^ ((num.log2 : Int) - den.log2 - 1) =
        2 ^ num.log2 / 2 ^ (den.log2 + 1) := by
      rw [sub_sub, zpow_sub₀ two_ne_zero, zpow_natCast]
      norm_cast
    rw [hpow]
    gcongr
  · have hpow : (2 : ℚ) ^ ((num.log2 : Int) - den.log2 + 1) =
        2 ^ (num.log2 + 1) / 2 ^ den.log2 := by
      rw [sub_add_eq_add_sub, zpow_sub₀ two_ne_zero]
      norm_cast
    rw [hpow]
    calc (num : ℚ) / den < 2 ^ (num.log2 + 1) / den := by gcongr
      _ ≤ 2 ^ (num.log2 + 1) / 2 ^ den.log2 := by gcongr

theorem exponent_exponentFor (hnum : 0 < num) (hden : 0 < den) :
    Exponent (num / den) (exponentFor num den) := by
  obtain ⟨hlow, hhigh⟩ := log2_bounds hnum hden
  unfold exponentFor
  dsimp only
  generalize hguess : (num.log2 : Int) - den.log2 - 53 = guess
  have hlow' : (2 : ℚ) ^ 52 * 2 ^ guess ≤ num / den := by
    rw [← zpow_natCast, ← zpow_add₀ two_ne_zero]
    exact (zpow_le_zpow_right₀ (by norm_num) (by push_cast; omega)).trans hlow
  have hhigh' : (num : ℚ) / den < 2 ^ 54 * 2 ^ guess := by
    rw [← zpow_natCast, ← zpow_add₀ two_ne_zero]
    exact hhigh.trans_le (zpow_le_zpow_right₀ (by norm_num) (by push_cast; omega))
  have hcompare : (scaled num den guess).1 < Nat.pow 2 53 * (scaled num den guess).2 ↔
      (num : ℚ) / den < 2 ^ 53 * 2 ^ guess := by
    have hpos : (0 : ℚ) < (scaled num den guess).2 := by exact_mod_cast scaled_pos num hden guess
    have hpow : (0 : ℚ) < 2 ^ guess := by positivity
    rw [← Nat.cast_lt (α := ℚ), ← div_lt_iff₀ hpow, ← scaled_div, div_lt_iff₀ hpos]
    push_cast [Nat.pow_eq]
    rfl
  have hraise : ∀ q : Int, (num : ℚ) / den < 2 ^ 53 * 2 ^ q → 2 ^ 52 * 2 ^ q ≤ (num : ℚ) / den →
      Exponent (num / den) (max (-1074) q) := by
    intro q hfits hnormal
    obtain h | h := le_total (-1074) q
    · rw [max_eq_right h]
      exact ⟨h, hfits, .inr hnormal⟩
    · rw [max_eq_left h]
      refine ⟨le_refl _, hfits.trans_le ?_, .inl rfl⟩
      have hpow : (2 : ℚ) ^ q ≤ 2 ^ (-1074 : Int) := zpow_le_zpow_right₀ (by norm_num) h
      linarith
  split
  · rename_i h
    exact hraise guess (hcompare.mp h) hlow'
  · rename_i h
    have hge := not_lt.mp (mt hcompare.mpr h)
    refine hraise (guess + 1) ?_ ?_
    · rw [zpow_add_one₀ two_ne_zero]
      linarith
    · rw [zpow_add_one₀ two_ne_zero]
      linarith

/-- A quotient is rounded to an integer if it lies between the two halves of the scale beside it. -/
theorem roundDiv_scaled_iff (num : Nat) (hden : 0 < den) (q : Int) :
    roundDiv (scaled num den q).1 (scaled num den q).2 = m ↔
      ((m - 1 / 2) * 2 ^ q < (num / den : ℚ) ∨
        m % 2 = 0 ∧ (m - 1 / 2) * 2 ^ q = (num / den : ℚ)) ∧
      ((num / den : ℚ) < (m + 1 / 2) * 2 ^ q ∨
        m % 2 = 0 ∧ (num / den : ℚ) = (m + 1 / 2) * 2 ^ q) := by
  have hratio := scaled_div num den q
  have hpos := scaled_pos num hden q
  rw [roundDiv_eq_iff hpos]
  generalize (scaled num den q).1 = n at hratio hpos ⊢
  generalize (scaled num den q).2 = d at hratio hpos ⊢
  have hd : (0 : ℚ) < d := by exact_mod_cast hpos
  have hpow : (0 : ℚ) < 2 ^ q := by positivity
  have hvalue : (num / den : ℚ) * d = n * 2 ^ q := by
    field_simp at hratio ⊢
    linarith
  -- Both sides of every comparison are multiplied by what makes them integers.
  have hscale : (0 : ℚ) < 2 * d / 2 ^ q := by positivity
  have hmiddle : (num / den : ℚ) * (2 * d / 2 ^ q) = 2 * n := by
    field_simp at hvalue ⊢
    linarith
  have hside : ∀ a : ℚ, a * 2 ^ q * (2 * d / 2 ^ q) = 2 * a * d := by
    intro a
    field_simp
  have habove : (m - 1 / 2) * 2 ^ q < (num / den : ℚ) ↔ 2 * m * d < 2 * n + d := by
    rw [← mul_lt_mul_iff_left₀ hscale, hside, hmiddle, ← Nat.cast_lt (α := ℚ)]
    push_cast
    constructor <;> intro h <;> linarith
  have habove' : (m - 1 / 2) * 2 ^ q = (num / den : ℚ) ↔ 2 * m * d = 2 * n + d := by
    rw [← mul_left_inj' hscale.ne', hside, hmiddle, ← Nat.cast_inj (R := ℚ)]
    push_cast
    constructor <;> intro h <;> linarith
  have hbelow : (num / den : ℚ) < (m + 1 / 2) * 2 ^ q ↔ 2 * n < (2 * m + 1) * d := by
    rw [← mul_lt_mul_iff_left₀ hscale, hside, hmiddle, ← Nat.cast_lt (α := ℚ)]
    push_cast
    constructor <;> intro h <;> linarith
  have hbelow' : (num / den : ℚ) = (m + 1 / 2) * 2 ^ q ↔ 2 * n = (2 * m + 1) * d := by
    rw [← mul_left_inj' hscale.ne', hside, hmiddle, ← Nat.cast_inj (R := ℚ)]
    push_cast
    constructor <;> intro h <;> linarith
  rw [habove, habove', hbelow, hbelow']

/-- The gap below a magnitude is that above it, or half of it. -/
theorem low_bounds (x : Binary) :
    (x.m - 1 / 2) * 2 ^ x.q ≤ x.low ∧ x.low ≤ (x.m - 1 / 4) * 2 ^ x.q := by
  have hpow : (0 : ℚ) < 2 ^ x.q := by positivity
  rw [low]
  constructor
  · refine mul_le_mul_of_nonneg_right ?_ hpow.le
    split <;> linarith
  · refine mul_le_mul_of_nonneg_right ?_ hpow.le
    split <;> linarith

/-- Below the first magnitude of an exponent the gap is that of the exponent before. -/
theorem low_of_first (hm : x.m = 2 ^ 52) (hq : -1074 < x.q) :
    x.low = (2 ^ 53 - 1 / 2) * 2 ^ (x.q - 1) := by
  have hnarrow : x.narrowBelow = true := by
    rw [narrowBelow, decide_eq_true_iff]
    exact ⟨hm, hq⟩
  rw [low, if_pos hnarrow, hm, zpow_sub_one₀ two_ne_zero]
  push_cast
  ring

/-- Half a unit makes no difference to the order of integers. -/
theorem le_of_sub_half_le {m n : Nat} (h : (m : ℚ) - 1 / 2 ≤ n) : m ≤ n := by
  have hlt : (m : ℚ) < (n + 1 : Nat) := by
    push_cast
    linarith
  exact Nat.le_of_lt_succ (by exact_mod_cast hlt)

/-- Of the magnitudes of an exponent, only the first attracts what is below all of them. -/
theorem eq_first (hx : x.Canonical) (hlow : x.q ≠ -1074) (hv : v < 2 ^ 52 * 2 ^ x.q)
    (h : x.Attracts v) : x.m = 2 ^ 52 := by
  have hpow : (0 : ℚ) < 2 ^ x.q := by positivity
  have hlt : (x.m : ℚ) - 1 / 2 < 2 ^ 52 :=
    lt_of_mul_lt_mul_right (((low_bounds x).1.trans h.ge_low).trans_lt hv) hpow.le
  exact le_antisymm (le_of_sub_half_le (by exact_mod_cast hlt.le)) (hx.normal.resolve_left hlow)

/-- A quotient of the exponent of the magnitude that attracts it is rounded to that. -/
theorem ofQuotient?_of_normal (hx : x.Canonical) (hden : 0 < den) (hnum : 0 < num)
    (h : x.Attracts (num / den)) (hnormal : x.q = -1074 ∨ 2 ^ 52 * 2 ^ x.q ≤ (num / den : ℚ)) :
    ofQuotient? num den = some x := by
  have hpow : (0 : ℚ) < 2 ^ x.q := by positivity
  have hbits : (x.m : ℚ) + 1 ≤ 2 ^ 53 := by exact_mod_cast hx.bits
  have hfits : (num / den : ℚ) < 2 ^ 53 * 2 ^ x.q :=
    h.le_high.trans_lt (mul_lt_mul_of_pos_right (by linarith) hpow)
  have hq : exponentFor num den = x.q :=
    (exponent_exponentFor hnum hden).unique ⟨hx.least, hfits, hnormal⟩
  have habove : (x.m - 1 / 2) * 2 ^ x.q < (num / den : ℚ) ∨
      x.m % 2 = 0 ∧ (x.m - 1 / 2) * 2 ^ x.q = (num / den : ℚ) := by
    rcases h.above with hlt | ⟨heven, heq⟩
    · exact .inl ((low_bounds x).1.trans_lt hlt)
    · rcases (low_bounds x).1.lt_or_eq with hlt | heq'
      · exact .inl (heq ▸ hlt)
      · exact .inr ⟨heven, heq'.trans heq⟩
  have hround := (roundDiv_scaled_iff num hden x.q).mpr ⟨habove, h.below⟩
  have hne : x.m ≠ Nat.pow 2 53 := Nat.ne_of_lt hx.bits
  have hmost : ¬ 971 < x.q := not_lt.mpr hx.most
  rw [ofQuotient?, hq]
  simp only [hround, if_neg hne, if_neg hmost]

/-- A quotient of the exponent before is rounded up to the first magnitude beyond. -/
theorem ofQuotient?_of_carry (hx : x.Canonical) (hden : 0 < den) (hnum : 0 < num)
    (h : x.Attracts (num / den)) (hleast : x.q ≠ -1074)
    (hbeyond : (num / den : ℚ) < 2 ^ 52 * 2 ^ x.q) : ofQuotient? num den = some x := by
  have hm := eq_first hx hleast hbeyond h
  have hleast := hx.least
  have hlow := low_of_first hm (by omega)
  have hhalf : (2 : ℚ) ^ x.q = 2 ^ (x.q - 1) * 2 := by
    rw [← zpow_add_one₀ two_ne_zero, sub_add_cancel]
  have hpow : (0 : ℚ) < 2 ^ (x.q - 1) := by positivity
  have hlt : (num / den : ℚ) < 2 ^ 53 * 2 ^ (x.q - 1) := by
    rw [hhalf] at hbeyond
    linarith
  have habove : ((2 ^ 53 : Nat) - 1 / 2) * 2 ^ (x.q - 1) < (num / den : ℚ) ∨ 2 ^ 53 % 2 = 0 ∧
      ((2 ^ 53 : Nat) - 1 / 2) * 2 ^ (x.q - 1) = (num / den : ℚ) := by
    rw [show (((2 ^ 53 : Nat) : ℚ) - 1 / 2) * 2 ^ (x.q - 1) = x.low by rw [hlow]; norm_num]
    exact h.above.imp_right (And.imp_left fun _ => by decide)
  have hq : exponentFor num den = x.q - 1 := by
    refine (exponent_exponentFor hnum hden).unique ⟨by omega, hlt, .inr ?_⟩
    refine le_trans ?_ (hlow ▸ h.ge_low)
    exact mul_le_mul_of_nonneg_right (by norm_num) hpow.le
  have hbelow : (num / den : ℚ) < ((2 ^ 53 : Nat) + 1 / 2) * 2 ^ (x.q - 1) :=
    hlt.trans (by push_cast; linarith)
  have hround := (roundDiv_scaled_iff num hden (x.q - 1)).mpr ⟨habove, .inl hbelow⟩
  have hup : x.q - 1 + 1 = x.q := by omega
  have hcarry : (2 ^ 53 : Nat) = Nat.pow 2 53 := rfl
  have hmost : ¬ 971 < x.q := not_lt.mpr hx.most
  rw [ofQuotient?, hq]
  simp only [hround, if_pos hcarry, hup, if_neg hmost]
  obtain ⟨m, q⟩ := x
  exact congrArg some (congrArg (Binary.mk · q) hm.symm)

/-- A quotient is rounded to the magnitude that attracts it. -/
theorem ofQuotient?_of_attracts (hx : x.Canonical) (hden : 0 < den) (hnum : 0 < num)
    (h : x.Attracts (num / den)) : ofQuotient? num den = some x := by
  by_cases hnormal : x.q = -1074 ∨ 2 ^ 52 * 2 ^ x.q ≤ (num / den : ℚ)
  · exact ofQuotient?_of_normal hx hden hnum h hnormal
  · rw [not_or, not_le] at hnormal
    exact ofQuotient?_of_carry hx hden hnum h hnormal.1 hnormal.2

/-- An integer that a number is rounded to at its exponent has 53 bits, or is the next one. -/
theorem Exponent.rounded (h : Exponent v q) (hlow : (m - 1 / 2) * 2 ^ q ≤ v)
    (hhigh : v ≤ (m + 1 / 2) * 2 ^ q) : m ≤ 2 ^ 53 ∧ (q = -1074 ∨ 2 ^ 52 ≤ m) := by
  have hpow : (0 : ℚ) < 2 ^ q := by positivity
  constructor
  · have hlt : (m : ℚ) - 1 / 2 < 2 ^ 53 := lt_of_mul_lt_mul_right (hlow.trans_lt h.fits) hpow.le
    exact le_of_sub_half_le (by exact_mod_cast hlt.le)
  · refine h.normal.imp_right fun hge => ?_
    have hle : (2 : ℚ) ^ 52 ≤ m + 1 / 2 := le_of_mul_le_mul_right (hge.trans hhigh) hpow
    refine le_of_sub_half_le ?_
    push_cast
    linarith

/-- The upper half of the gap before the first magnitude of an exponent is attracted by that. -/
theorem attracts_first (hq : -1074 ≤ q) (hfits : v < 2 ^ 53 * 2 ^ q)
    (habove : (2 ^ 53 - 1 / 2) * 2 ^ q ≤ v) : Attracts ⟨2 ^ 52, q + 1⟩ v := by
  have hpow : (0 : ℚ) < 2 ^ q := by positivity
  have hlow : low ⟨2 ^ 52, q + 1⟩ = (2 ^ 53 - 1 / 2) * 2 ^ q := by
    rw [low_of_first rfl (by dsimp only; omega), add_sub_cancel_right]
  refine ⟨?_, .inl ?_⟩
  · rw [hlow]
    exact habove.lt_or_eq.imp_right fun h => ⟨(by decide : 2 ^ 52 % 2 = 0), h⟩
  · rw [high, zpow_add_one₀ two_ne_zero]
    push_cast
    linarith

/-- What a quotient is rounded to is a magnitude, which attracts it. -/
theorem attracts_of_ofQuotient? (hnum : 0 < num) (hden : 0 < den)
    (h : ofQuotient? num den = some x) : x.Canonical ∧ x.Attracts (num / den) := by
  have hexponent := exponent_exponentFor hnum hden
  obtain ⟨habove, hbelow⟩ := (roundDiv_scaled_iff num hden (exponentFor num den)).mp rfl
  unfold ofQuotient? at h
  generalize exponentFor num den = q at *
  dsimp only at h
  generalize roundDiv (scaled num den q).1 (scaled num den q).2 = m at *
  have hpow : (0 : ℚ) < 2 ^ q := by positivity
  have hlow : (m - 1 / 2) * 2 ^ q ≤ (num / den : ℚ) := habove.elim le_of_lt fun h => h.2.le
  have hhigh : (num / den : ℚ) ≤ (m + 1 / 2) * 2 ^ q := hbelow.elim le_of_lt fun h => h.2.le
  obtain ⟨hbits, hnormal⟩ := hexponent.rounded hlow hhigh
  have hleast := hexponent.least
  split_ifs at h with hcarry hbig hbig
  all_goals
    rw [Option.some.injEq] at h
    subst h
    rw [not_lt] at hbig
  · refine ⟨⟨Nat.pow_lt_pow_right (by decide) (by decide), by dsimp only; omega, hbig,
      .inr (le_refl _)⟩, ?_⟩
    rw [hcarry] at hlow
    exact attracts_first hleast hexponent.fits (by exact_mod_cast hlow)
  · refine ⟨⟨lt_of_le_of_ne hbits hcarry, hleast, hbig, hnormal⟩, ?_, hbelow⟩
    by_cases hnarrow : narrowBelow ⟨m, q⟩ = true
    · have hpower : m = Nat.pow 2 52 ∧ -1074 < q := by simpa [narrowBelow] using hnarrow
      have hge := hexponent.normal.resolve_left (by omega)
      refine .inl ?_
      rw [low, if_pos hnarrow, hpower.1]
      refine lt_of_lt_of_le (mul_lt_mul_of_pos_right ?_ hpow) hge
      push_cast [Nat.pow_eq]
      norm_num
    · rw [low, if_neg hnarrow]
      exact habove

/-! Decimals. -/

theorem canonical_zero : zero.Canonical := ⟨by decide, by decide, by decide, .inl rfl⟩

theorem Canonical.eq_zero (hx : x.Canonical) (hm : x.m = 0) : x = zero := by
  have hq : x.q = -1074 := by
    have hnormal := hx.normal
    omega
  obtain ⟨m, q⟩ := x
  obtain rfl : m = 0 := hm
  obtain rfl : q = -1074 := hq
  rfl

theorem digitCount_bounds {n : Nat} (hn : 0 < n) :
    10 ^ (digitCount n - 1) ≤ n ∧ n < 10 ^ digitCount n ∧ 0 < digitCount n := by
  have hpos : 0 < digitCount n := Nat.length_toDigits_pos
  refine ⟨?_, (Nat.length_toDigits_le_iff (by decide) hpos).mp (le_refl _), hpos⟩
  by_contra h
  by_cases hone : digitCount n - 1 = 0
  · rw [hone, pow_zero] at h
    exact h hn
  · have hle := (Nat.length_toDigits_le_iff (by decide) (Nat.pos_of_ne_zero hone)).mpr (not_le.mp h)
    change digitCount n ≤ digitCount n - 1 at hle
    omega

/-- A decimal lies between the powers of ten around its first digit. -/
theorem decimal_bounds {d : Nat} (hd : 0 < d) (e : Int) :
    (10 : ℚ) ^ (digitCount d + e - 1) ≤ d * 10 ^ e ∧
      (d : ℚ) * 10 ^ e < 10 ^ (digitCount d + e) := by
  obtain ⟨hlow, hhigh, hpos⟩ := digitCount_bounds hd
  have hpow : (0 : ℚ) < 10 ^ e := by positivity
  constructor
  · have hexp : (digitCount d + e - 1 : Int) = ((digitCount d - 1 : Nat) : Int) + e := by omega
    have hcast : (10 : ℚ) ^ (digitCount d - 1) ≤ d := by exact_mod_cast hlow
    rw [hexp, zpow_add₀ (by norm_num), zpow_natCast]
    exact mul_le_mul_of_nonneg_right hcast hpow.le
  · have hcast : (d : ℚ) < 10 ^ digitCount d := by exact_mod_cast hhigh
    rw [zpow_add₀ (by norm_num), zpow_natCast]
    exact mul_lt_mul_of_pos_right hcast hpow

/-- The quotient that a decimal is rounded as. -/
theorem cast_decimal (d : Nat) (e : Int) :
    ((d * Nat.pow 10 e.toNat : Nat) : ℚ) / (Nat.pow 10 (-e).toNat : Nat) = d * 10 ^ e := by
  rw [zpow_eq_div 10 e]
  push_cast [Nat.pow_eq]
  ring

theorem of_nearest? {d : Nat} {e : Int} (h : nearest? d e = some x) :
    x = zero ∨ x.Canonical ∧ x.Attracts (d * 10 ^ e) := by
  unfold nearest? at h
  dsimp only at h
  split_ifs at h with hd hsmall
  · exact .inl (Option.some.inj h).symm
  · exact .inl (Option.some.inj h).symm
  · refine .inr (cast_decimal d e ▸ attracts_of_ofQuotient? ?_ (Nat.pow_pos (by decide)) h)
    exact Nat.mul_pos (Nat.pos_of_ne_zero hd) (Nat.pow_pos (by decide))

theorem canonical_of_nearest? {d : Nat} {e : Int} (h : nearest? d e = some x) : x.Canonical :=
  (of_nearest? h).elim (fun hzero => hzero ▸ canonical_zero) And.left

/-- What a magnitude above zero attracts is above zero, and of its size. -/
theorem Attracts.bounds (h : x.Attracts v) (hx : x.Canonical) (hm : 0 < x.m) :
    (2 : ℚ) ^ (-1075 : Int) ≤ v ∧ v < 2 ^ (1024 : Int) := by
  have hpow : (0 : ℚ) < 2 ^ x.q := by positivity
  constructor
  · have hleast : (2 : ℚ) ^ (-1074 : Int) ≤ 2 ^ x.q := zpow_le_zpow_right₀ (by norm_num) hx.least
    have hone : (1 : ℚ) ≤ x.m := by exact_mod_cast hm
    calc (2 : ℚ) ^ (-1075 : Int) = 1 / 2 * 2 ^ (-1074 : Int) := by
          rw [show (-1075 : Int) = -1074 - 1 from rfl, zpow_sub_one₀ two_ne_zero]
          ring
      _ ≤ 1 / 2 * 2 ^ x.q := by linarith
      _ ≤ (x.m - 1 / 2) * 2 ^ x.q := mul_le_mul_of_nonneg_right (by linarith) hpow.le
      _ ≤ x.low := (low_bounds x).1
      _ ≤ v := h.ge_low
  · have hmost : (2 : ℚ) ^ x.q ≤ 2 ^ (971 : Int) := zpow_le_zpow_right₀ (by norm_num) hx.most
    have hbits : (x.m : ℚ) + 1 ≤ 2 ^ 53 := by exact_mod_cast hx.bits
    calc v ≤ x.high := h.le_high
      _ < 2 ^ 53 * 2 ^ x.q := mul_lt_mul_of_pos_right (by linarith) hpow
      _ ≤ 2 ^ 53 * 2 ^ (971 : Int) := by gcongr
      _ = 2 ^ (1024 : Int) := by rw [← zpow_natCast, ← zpow_add₀ two_ne_zero]; rfl

/-- A decimal is rounded to the magnitude that attracts it. -/
theorem nearest?_of_attracts {d : Nat} {e : Int} (hx : x.Canonical) (hm : 0 < x.m)
    (h : x.Attracts (d * 10 ^ e)) : nearest? d e = some x := by
  obtain ⟨hlow, hhigh⟩ := h.bounds hx hm
  have hd : 0 < d := by
    refine Nat.pos_of_ne_zero ?_
    rintro rfl
    have hpos : (0 : ℚ) < 2 ^ (-1075 : Int) := by positivity
    rw [Nat.cast_zero, zero_mul] at hlow
    linarith
  obtain ⟨hlow', hhigh'⟩ := decimal_bounds hd e
  have hsmall : ¬ (digitCount d + e : Int) < -330 := by
    intro hsize
    have hle : (10 : ℚ) ^ (digitCount d + e : Int) ≤ 10 ^ (-330 : Int) :=
      zpow_le_zpow_right₀ (by norm_num) hsize.le
    have htiny : (10 : ℚ) ^ (-330 : Int) ≤ 2 ^ (-1075 : Int) := by
      have hnat : (2 : Nat) ^ 1075 ≤ 10 ^ 330 := by decide +kernel
      rw [zpow_neg, zpow_neg]
      refine inv_anti₀ (by positivity) ?_
      exact_mod_cast hnat
    exact absurd hlow (not_le.mpr (hhigh'.trans_le (hle.trans htiny)))
  have hlarge : ¬ 310 < (digitCount d + e : Int) := by
    intro hsize
    have hle : (10 : ℚ) ^ (310 : Int) ≤ 10 ^ (digitCount d + e - 1 : Int) :=
      zpow_le_zpow_right₀ (by norm_num) (by omega)
    have hhuge : (2 : ℚ) ^ (1024 : Int) ≤ 10 ^ (310 : Int) := by
      have hnat : (2 : Nat) ^ 1024 ≤ 10 ^ 310 := by decide +kernel
      exact_mod_cast hnat
    exact absurd hhigh (not_lt.mpr (hhuge.trans (hle.trans hlow')))
  unfold nearest?
  dsimp only
  rw [if_neg (Nat.pos_iff_ne_zero.mp hd), if_neg hsmall, if_neg hlarge]
  refine ofQuotient?_of_attracts hx (Nat.pow_pos (by decide))
    (Nat.mul_pos hd (Nat.pow_pos (by decide))) ?_
  rw [cast_decimal]
  exact h

/-- The magnitude nearest to a decimal is the one that attracts it. -/
theorem nearest?_eq_some_iff {d : Nat} {e : Int} (hm : 0 < x.m) :
    nearest? d e = some x ↔ x.Canonical ∧ x.Attracts (d * 10 ^ e) := by
  constructor
  · refine fun h => (of_nearest? h).resolve_left fun hzero => ?_
    rw [hzero] at hm
    exact lt_irrefl 0 hm
  · exact fun h => nearest?_of_attracts h.1 hm h.2

/-! Rounding depends on the number alone, not on how it is written. -/

theorem ofQuotient?_congr (hnum : 0 < num) (hden : 0 < den) (hnum' : 0 < num') (hden' : 0 < den')
    (h : (num : ℚ) / den = num' / den') : ofQuotient? num den = ofQuotient? num' den' := by
  have hexp : exponentFor num den = exponentFor num' den' :=
    Exponent.unique (exponent_exponentFor hnum hden) (h ▸ exponent_exponentFor hnum' hden')
  unfold ofQuotient?
  dsimp only
  rw [hexp]
  generalize exponentFor num' den' = q
  have hpos := scaled_pos num hden q
  have hpos' := scaled_pos num' hden' q
  have hratio : ((scaled num den q).1 : ℚ) / (scaled num den q).2 =
      (scaled num' den' q).1 / (scaled num' den' q).2 := by
    rw [scaled_div, scaled_div, h]
  rw [div_eq_div_iff (by exact_mod_cast hpos.ne') (by exact_mod_cast hpos'.ne')] at hratio
  rw [roundDiv_congr hpos hpos' (by exact_mod_cast hratio)]

theorem digitCount_add_le {d d' : Nat} {e e' : Int} (hd : 0 < d) (hd' : 0 < d')
    (h : (d : ℚ) * 10 ^ e ≤ d' * 10 ^ e') : (digitCount d + e : Int) ≤ digitCount d' + e' := by
  have hlt := ((decimal_bounds hd e).1.trans h).trans_lt (decimal_bounds hd' e').2
  rw [zpow_lt_zpow_iff_right₀ (by norm_num)] at hlt
  omega

/-- One decimal is rounded to one magnitude, wherever its point stands. -/
theorem nearest?_congr {d d' : Nat} {e e' : Int} (h : (d : ℚ) * 10 ^ e = d' * 10 ^ e') :
    nearest? d e = nearest? d' e' := by
  have hpow : ∀ e : Int, (10 : ℚ) ^ e ≠ 0 := fun e => by positivity
  have hzero : d = 0 ↔ d' = 0 := by
    have hmul : (d : ℚ) * 10 ^ e = 0 ↔ (d' : ℚ) * 10 ^ e' = 0 := by rw [h]
    simpa [hpow] using hmul
  unfold nearest?
  dsimp only
  obtain hd | hd := Nat.eq_zero_or_pos d
  · rw [if_pos hd, if_pos (hzero.mp hd)]
  · have hd' : 0 < d' := Nat.pos_of_ne_zero (mt hzero.mpr hd.ne')
    have hsize : (digitCount d + e : Int) = digitCount d' + e' :=
      le_antisymm (digitCount_add_le hd hd' h.le) (digitCount_add_le hd' hd h.ge)
    have hten : ∀ n : Nat, 0 < Nat.pow 10 n := fun n => Nat.pow_pos (by decide)
    rw [if_neg hd.ne', if_neg hd'.ne', hsize, ofQuotient?_congr (Nat.mul_pos hd (hten _)) (hten _)
      (Nat.mul_pos hd' (hten _)) (hten _) (by rw [cast_decimal, cast_decimal, h])]

end Binary
end SchemaInterfaces.Decimal
