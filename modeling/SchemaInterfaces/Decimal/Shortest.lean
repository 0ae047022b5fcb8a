import SchemaInterfaces.Decimal.Binary

/-! The fewest decimal digits that read back to a binary magnitude. -/

namespace SchemaInterfaces.Decimal

/-- `digits * 10 ^ exp` -/
structure Digits where
  digits : Nat
  exp : Int
deriving Repr, DecidableEq

/-- Where two decimals of one length are equally near, which one is taken. -/
inductive Tie where
  | toEven
  | up
deriving Repr, DecidableEq

/-- Compares `a * 10 ^ i` with `n * 2 ^ j`. -/
def compareScaled (a : Nat) (i : Int) (n : Nat) (j : Int) : Ordering :=
  compare (a * Nat.pow 10 i.toNat * Nat.pow 2 (-j).toNat)
    (n * Nat.pow 2 j.toNat * Nat.pow 10 (-i).toNat)

namespace Binary
variable (x : Binary)

/-- The gap to the magnitude below is half the gap to the one above. -/
def narrowBelow : Bool := x.m = Nat.pow 2 52 ∧ -1074 < x.q

/-- The decimal lies among the reals that round to `x`: from halfway to the magnitude below to
halfway to the one above, the ends included if `m` is even. -/
def readsBack (d : Digits) : Bool :=
  let below := if x.narrowBelow then 4 * x.m - 1 else 4 * x.m - 2
  let low := compareScaled d.digits d.exp below (x.q - 2)
  let high := compareScaled d.digits d.exp (4 * x.m + 2) (x.q - 2)
  let even := x.m % 2 == 0
  (low == .gt || even && low == .eq) && (high == .lt || even && high == .eq)

/-- The least `k` with `x < 10 ^ k`, for `x` above zero. Shifted by 400 places every magnitude has
a digit before the point. -/
def scale : Int :=
  (digitCount (x.m * Nat.pow 10 400 * Nat.pow 2 x.q.toNat / Nat.pow 2 (-x.q).toNat) : Int) - 400

/-- The largest multiple of `10 ^ exp` that is not above `x`, as a number of such units. -/
def unitsOf (exp : Int) : Nat :=
  x.m * Nat.pow 2 x.q.toNat * Nat.pow 10 (-exp).toNat /
    (Nat.pow 2 (-x.q).toNat * Nat.pow 10 exp.toNat)

/-- The neighbour of `x` among the multiples of `10 ^ exp` that reads back, the nearer one if both
do. -/
def onGrid? (tie : Tie) (exp : Int) : Option Digits :=
  let below : Digits := ⟨x.unitsOf exp, exp⟩
  let above : Digits := ⟨x.unitsOf exp + 1, exp⟩
  match x.readsBack below, x.readsBack above with
  | false, false => none
  | true, false => some below
  | false, true => some above
  | true, true =>
    -- the point halfway between the two, in units of half the grid
    match compareScaled (5 * (below.digits + above.digits)) (exp - 1) x.m x.q with
    | .gt => some below
    | .lt => some above
    | .eq => if tie = .up ∨ below.digits % 2 = 1 then some above else some below

end Binary

/-- Moves the trailing zeros of at most `fuel` digits into the exponent. -/
def dropZeros : Nat → Digits → Digits
  | 0, d => d
  | fuel + 1, d =>
    if d.digits ≠ 0 ∧ d.digits % 10 = 0 then dropZeros fuel ⟨d.digits / 10, d.exp + 1⟩ else d

/-- The digits on the first of some grids where a neighbour of `x` reads back. Where none does, `x`
is given exactly. -/
def Binary.onGrids (tie : Tie) (x : Binary) (grids : List Int) : Digits :=
  match grids.findSome? (x.onGrid? tie) with
  | some d => dropZeros (digitCount d.digits) d
  | none => ⟨x.m * Nat.pow 2 x.q.toNat * Nat.pow 5 (-x.q).toNat, min 0 x.q⟩

/-- The fewest digits that read back to `x`, of those the nearest. Seventeen always suffice. -/
def shortest (tie : Tie) (x : Binary) : Digits :=
  x.onGrids tie ((List.range 17).map fun n => x.scale - (n + 1 : Nat))

end SchemaInterfaces.Decimal
