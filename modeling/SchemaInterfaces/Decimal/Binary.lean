/-! Binary floating-point magnitudes of 53 bits, and the one nearest to a decimal. -/

namespace SchemaInterfaces.Decimal

/-- The finite magnitude `m * 2 ^ q`, with `m < 2 ^ 53` and `-1074 ≤ q ≤ 971`. -/
structure Binary where
  m : Nat
  q : Int
deriving Repr, DecidableEq

/-- A quotient rounded to the nearest integer, a half to the even one. -/
def roundDiv (num den : Nat) : Nat :=
  let quotient := num / den
  let twice := 2 * (num % den)
  if twice < den ∨ (twice = den ∧ quotient % 2 = 0) then quotient else quotient + 1

/-- The number of decimal digits, one for zero. -/
def digitCount (n : Nat) : Nat := (Nat.toDigits 10 n).length

namespace Binary

def zero : Binary := ⟨0, -1074⟩

/-- `num / den` divided by `2 ^ q`, as a numerator and a denominator. -/
def scaled (num den : Nat) (q : Int) : Nat × Nat :=
  (num * Nat.pow 2 (-q).toNat, den * Nat.pow 2 q.toNat)

/-- The exponent that leaves 53 bits before the point of `num / den`, but no less than the least
one. -/
def exponentFor (num den : Nat) : Int :=
  let guess : Int := (num.log2 : Int) - den.log2 - 53
  let (n, d) := scaled num den guess
  max (-1074) (if n < Nat.pow 2 53 * d then guess else guess + 1)

/-- The magnitude nearest to `num / den`, a half going to the even neighbour. Nothing from where
the one after the largest would be nearer. -/
def ofQuotient? (num den : Nat) : Option Binary :=
  let q := exponentFor num den
  let (n, d) := scaled num den q
  let m := roundDiv n d
  let x : Binary := if m = Nat.pow 2 53 then ⟨Nat.pow 2 52, q + 1⟩ else ⟨m, q⟩
  if 971 < x.q then none else some x

/-- The magnitude nearest to `d * 10 ^ e`. The exponent is looked at before any power is taken:
what lies far outside the range needs none. -/
def nearest? (d : Nat) (e : Int) : Option Binary :=
  if d = 0 then some zero
  else
    let size := digitCount d + e
    if size < -330 then some zero
    else if 310 < size then none
    else ofQuotient? (d * Nat.pow 10 e.toNat) (Nat.pow 10 (-e).toNat)

end Binary

end SchemaInterfaces.Decimal
