import SchemaInterfaces.Decimal.Shortest

/-! How the digits of a number are laid out as text. -/

namespace SchemaInterfaces.Decimal

/-- The decisions that two number formats differ in. Both write a point into every plain number and
the sign of every exponent. -/
structure Layout where
  /-- Numbers with this exponent of the leading digit are written without an exponent. -/
  plain : Int → Bool
  tie : Tie

/-- `0.0012`, `1.2`, `1200.0` for the digits `12`, where `e` is the exponent of the first. -/
def plainText (ds : List Char) (e : Int) : List Char :=
  if e < 0 then ['0', '.'] ++ List.replicate (-e - 1).toNat '0' ++ ds
  else
    let whole := e.toNat + 1
    if ds.length ≤ whole then ds ++ List.replicate (whole - ds.length) '0' ++ ['.', '0']
    else ds.take whole ++ ['.'] ++ ds.drop whole

/-- `1e+20`, `1.2e-7`: one digit before the point, and no point after a single digit. -/
def exponentText (ds : List Char) (e : Int) : List Char :=
  ds.take 1 ++ (if ds.length ≤ 1 then [] else '.' :: ds.drop 1) ++
    ['e', if e < 0 then '-' else '+'] ++ Nat.toDigits 10 e.natAbs

namespace Layout

def magnitude (layout : Layout) (x : Binary) : List Char :=
  if x.m = 0 then ['0', '.', '0']
  else
    let d := shortest layout.tie x
    let ds := Nat.toDigits 10 d.digits
    let e : Int := d.exp + ds.length - 1
    if layout.plain e then plainText ds e else exponentText ds e

def render (layout : Layout) (negative : Bool) (x : Binary) : String :=
  String.ofList ((if negative then ['-'] else []) ++ layout.magnitude x)

end Layout

end SchemaInterfaces.Decimal
