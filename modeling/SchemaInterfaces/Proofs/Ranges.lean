import Mathlib.Data.List.Chain
import SchemaInterfaces.Text.Blank
import SchemaInterfaces.Text.Word

/-! Tables of code points compared range by range: what one leaves of another. -/
namespace SchemaInterfaces.Text

/-- A code point is in one of the ranges, wherever that stands. -/
def Held (n : Nat) (t : List (Nat × Nat)) : Prop := ∃ r ∈ t, r.1 ≤ n ∧ n ≤ r.2

/-- A range starts and ends before another starts. -/
def Precedes (r s : Nat × Nat) : Prop := r.1 < s.1 ∧ r.2 < s.1

instance (r s : Nat × Nat) : Decidable (Precedes r s) :=
  inferInstanceAs (Decidable (r.1 < s.1 ∧ r.2 < s.1))

instance : Trans Precedes Precedes Precedes :=
  ⟨fun h h' => ⟨h.1.trans h'.1, h.2.trans h'.1⟩⟩

/-- What the ranges of a table leave of the one from `lo` to `hi`. -/
def gaps : List (Nat × Nat) → Nat → Nat → List (Nat × Nat)
  | [], lo, hi => [(lo, hi)]
  | r :: t, lo, hi =>
    if r.2 < lo then gaps t lo hi
    else if hi < r.1 then [(lo, hi)]
    else (if lo < r.1 then [(lo, r.1 - 1)] else []) ++
      if r.2 < hi then gaps t (r.2 + 1) hi else []

/-- What a table leaves of another. Both ascend, so what ends before a range is not looked at
again for the later ones. -/
def uncovered : List (Nat × Nat) → List (Nat × Nat) → List (Nat × Nat)
  | [], _ => []
  | r :: a, b =>
    let b := b.dropWhile fun s => s.2 < r.1
    gaps b r.1 r.2 ++ uncovered a b

variable {n lo hi : Nat} {a b t : List (Nat × Nat)} {r : Nat × Nat}

theorem not_held_nil (n : Nat) : ¬ Held n [] := by simp [Held]

theorem held_cons_iff : Held n (r :: t) ↔ r.1 ≤ n ∧ n ≤ r.2 ∨ Held n t := by
  simp [Held]

theorem held_append_iff : Held n (a ++ b) ↔ Held n a ∨ Held n b := by
  simp only [Held, List.mem_append, or_and_right, exists_or]

theorem not_held_of_lt (h : ∀ s ∈ t, Precedes r s) (hn : n ≤ r.1) : ¬ Held n t := by
  rintro ⟨s, hs, hlo, -⟩
  have := (h s hs).1
  omega

theorem inRanges_iff_held (ht : t.Pairwise Precedes) : inRanges n t = true ↔ Held n t := by
  induction t with
  | nil => simp [inRanges, Held]
  | cons r t ih =>
    obtain ⟨hfirst, hrest⟩ := List.pairwise_cons.mp ht
    rw [inRanges, held_cons_iff]
    split
    · have hnot : ¬ Held n t := not_held_of_lt hfirst (by omega)
      simp only [hnot, or_false, Bool.false_eq_true, false_iff]
      omega
    · simp [ih hrest, show r.1 ≤ n by omega]

theorem held_gaps_iff (ht : t.Pairwise Precedes) :
    Held n (gaps t lo hi) ↔ (lo ≤ n ∧ n ≤ hi) ∧ ¬ Held n t := by
  induction t generalizing lo with
  | nil => simp [gaps, held_cons_iff, not_held_nil]
  | cons r t ih =>
    obtain ⟨hfirst, hrest⟩ := List.pairwise_cons.mp ht
    have hbelow : n ≤ r.1 → ¬ Held n t := not_held_of_lt hfirst
    rw [gaps, held_cons_iff]
    split
    · rw [ih hrest]
      have : lo ≤ n → ¬ n ≤ r.2 := by omega
      tauto
    · split
      · rw [held_cons_iff]
        have hend : n ≤ hi → ¬ r.1 ≤ n ∧ ¬ Held n t := fun h => ⟨by omega, hbelow (by omega)⟩
        have := not_held_nil n
        tauto
      · rw [held_append_iff]
        have hfront : Held n (if lo < r.1 then [(lo, r.1 - 1)] else []) ↔ lo ≤ n ∧ n < r.1 := by
          split
          · simp only [held_cons_iff, not_held_nil, or_false]
            omega
          · simp only [not_held_nil, false_iff]
            omega
        have hback : Held n (if r.2 < hi then gaps t (r.2 + 1) hi else []) ↔
            (r.2 < n ∧ n ≤ hi) ∧ ¬ Held n t := by
          split
          · exact ih hrest
          · have : ¬ (r.2 < n ∧ n ≤ hi) := by omega
            simp only [not_held_nil, this, false_and]
        have hsplit : (lo ≤ n ∧ n < r.1) ∨ r.2 < n ∧ n ≤ hi ↔
            (lo ≤ n ∧ n ≤ hi) ∧ ¬ (r.1 ≤ n ∧ n ≤ r.2) := by omega
        rw [hfront, hback]
        by_cases hn : n < r.1
        · have hnot : ¬ Held n t := hbelow hn.le
          simpa only [hnot, not_false_eq_true, and_true, or_false] using hsplit
        · have hlate : ¬ (lo ≤ n ∧ n < r.1) := by omega
          simp only [hlate, false_or] at hsplit ⊢
          rw [hsplit, not_or, and_assoc]

theorem held_dropWhile_iff (hn : lo ≤ n) :
    Held n (t.dropWhile fun s => s.2 < lo) ↔ Held n t := by
  induction t with
  | nil => rfl
  | cons r t ih =>
    rw [List.dropWhile_cons]
    split
    · rename_i hr
      have : r.2 < lo := by simpa using hr
      rw [ih, held_cons_iff]
      simp [show ¬ n ≤ r.2 by omega]
    · rfl

theorem held_uncovered_iff (ha : a.Pairwise Precedes) (hb : b.Pairwise Precedes) :
    Held n (uncovered a b) ↔ Held n a ∧ ¬ Held n b := by
  induction a generalizing b with
  | nil => simp [uncovered, not_held_nil]
  | cons r a ih =>
    obtain ⟨hfirst, hrest⟩ := List.pairwise_cons.mp ha
    have hdrop : (b.dropWhile fun s => s.2 < r.1).Pairwise Precedes :=
      hb.sublist (List.dropWhile_sublist _)
    rw [uncovered, held_append_iff, held_gaps_iff hdrop, ih hrest hdrop, held_cons_iff]
    have hsame : r.1 ≤ n → (Held n (b.dropWhile fun s => s.2 < r.1) ↔ Held n b) :=
      held_dropWhile_iff
    have hlater : Held n a → r.1 ≤ n := fun h =>
      Nat.le_of_not_le fun hle => not_held_of_lt hfirst hle h
    grind

/-- A table whose neighbours are in order is in order. -/
theorem pairwise_of_isChain (h : t.IsChain Precedes) : t.Pairwise Precedes :=
  List.isChain_iff_pairwise.mp h

theorem pairwise_alphabetic : alphabeticRanges.Pairwise Precedes :=
  pairwise_of_isChain (by decide +kernel)

theorem pairwise_numeric : numericRanges.Pairwise Precedes :=
  pairwise_of_isChain (by decide +kernel)

theorem pairwise_blank : blankRanges.Pairwise Precedes := pairwise_of_isChain (by decide)

/-- A character of a name is no white space. -/
theorem isBlank_of_isWordChar {c : Char} (h : isWordChar c = true) : isBlank c = false := by
  by_contra hblank
  have hheld : Held c.toNat blankRanges :=
    (inRanges_iff_held pairwise_blank).mp (by simpa [isBlank] using hblank)
  have hletter : uncovered blankRanges alphabeticRanges = blankRanges := by decide +kernel
  have hnumber : uncovered blankRanges numericRanges = blankRanges := by decide +kernel
  rw [isWordChar, isAlphanumeric, Bool.or_eq_true, Bool.or_eq_true, isAlphabetic, isNumeric,
    inRanges_iff_held pairwise_alphabetic, inRanges_iff_held pairwise_numeric] at h
  rcases h with (h | h) | h
  · rw [← hletter, held_uncovered_iff pairwise_blank pairwise_alphabetic] at hheld
    exact hheld.2 h
  · rw [← hnumber, held_uncovered_iff pairwise_blank pairwise_numeric] at hheld
    exact hheld.2 h
  · obtain rfl : c = '_' := by simpa using h
    revert hblank
    decide

end SchemaInterfaces.Text
