/-! Sets of characters, given as ascending closed ranges of code points. -/

namespace SchemaInterfaces.Text

/-- Whether a code point lies in one of the ranges. They ascend and are apart, so the search ends
at the first range that starts above it. -/
def inRanges (n : Nat) : List (Nat × Nat) → Bool
  | [] => false
  | (lo, hi) :: rest => if n < lo then false else decide (n ≤ hi) || inRanges n rest

theorem inRanges_cons_of_lt {n lo hi : Nat} {rest : List (Nat × Nat)} (h : n < lo) :
    inRanges n ((lo, hi) :: rest) = false := by
  simp [inRanges, h]

end SchemaInterfaces.Text
