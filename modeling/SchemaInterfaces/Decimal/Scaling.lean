import SchemaInterfaces.Decimal.Shortest

/-! Decimals as products and quotients of binary magnitudes. -/

namespace SchemaInterfaces.Decimal
namespace Binary

/-- The magnitude nearest to `num / den * 2 ^ q`. -/
def rounded? (num den : Nat) (q : Int) : Option Binary :=
  if num = 0 then some zero
  else ofQuotient? (num * Nat.pow 2 q.toNat) (den * Nat.pow 2 (-q).toNat)

def times? (x y : Binary) : Option Binary := rounded? (x.m * y.m) 1 (x.q + y.q)

def over? (x y : Binary) : Option Binary := rounded? x.m y.m (x.q - y.q)

/-- The exponent of the largest power of ten that has a magnitude. -/
def mostTens : Nat := 308

/-- `x * 10 ^ n`. A power that has no magnitude leaves none to the product, unless it is zero. -/
def timesTens? (n : Nat) (x : Binary) : Option Binary :=
  if n ≤ mostTens then (nearest? 1 n).bind x.times?
  else if x.m = 0 then some x else none

/-- `x / 10 ^ n` after as many divisions by the largest power of ten as `hops` says. Zero is not
divided any further. -/
def overTens? (n : Nat) : Nat → Binary → Option Binary
  | 0, x => (nearest? 1 n).bind x.over?
  | hops + 1, x =>
    if x.m = 0 then some x
    else ((nearest? 1 mostTens).bind x.over?).bind (overTens? n hops)

end Binary

/-- The digits as a magnitude, and this multiplied or divided by the power of ten. As each step is
rounded, the result need not be the nearest magnitude. -/
def Digits.scaled? (d : Digits) : Option Binary :=
  (Binary.nearest? d.digits 0).bind fun x =>
    match d.exp with
    | .ofNat n => x.timesTens? n
    | .negSucc n => x.overTens? (n % Binary.mostTens + 1) (n / Binary.mostTens)

end SchemaInterfaces.Decimal
