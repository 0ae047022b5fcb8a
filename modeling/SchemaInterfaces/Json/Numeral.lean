import SchemaInterfaces.Decimal.Layout
import SchemaInterfaces.Decimal.Scaling
import SchemaInterfaces.Text.Digit

/-! Numbers of JSON: as written, as read, and the text of what was read. -/

namespace SchemaInterfaces.Json
open Text

/-- A number as written. Digits stand in reading order. -/
structure Numeral where
  negative : Bool
  whole : List Char
  fraction : Option (List Char)
  /-- Whether the exponent is negative, and its digits. -/
  exponent : Option (Bool × List Char)
deriving Repr, DecidableEq

/-- A number as read: integers of 64 bits are kept, all else is a binary floating-point number. -/
inductive Number where
  | integer (i : Int)
  | real (negative : Bool) (magnitude : Decimal.Binary)
deriving Repr, DecidableEq

namespace Numeral
variable (n : Numeral)

/-- The power of ten that is written. -/
def power : Int :=
  match n.exponent with
  | none => 0
  | some (true, ds) => -digitsValue 10 ds
  | some (false, ds) => digitsValue 10 ds

/-- The number of the digits of `m` and of as many of the others behind them as fit 64 bits, and the
digits that are left. -/
def takeIn (m : Nat) : List Char → Nat × List Char
  | [] => (m, [])
  | c :: ds =>
    let next := 10 * m + digitsValue 10 [c]
    if next < Nat.pow 2 64 then takeIn next ds else (m, c :: ds)

/-- The digits that fit 64 bits, with their power of ten. Of the others, those before the point count
as zeros and those behind it for nothing. -/
def taken : Decimal.Digits :=
  let fraction := n.fraction.getD []
  let (m, zeros) := takeIn 0 n.whole
  let (digits, dropped) := takeIn m fraction
  ⟨digits, n.power + zeros.length - (fraction.length - dropped.length : Nat)⟩

def real? : Option Number := n.taken.scaled?.map (.real n.negative)

/-- The integer that an integer literal stands for if it fits 64 bits, with or without a sign. A
negative zero is no integer. -/
def integer? : Option Int :=
  let value := digitsValue 10 n.whole
  if n.fraction.isSome ∨ n.exponent.isSome then none
  else if n.negative then if 0 < value ∧ value ≤ Nat.pow 2 63 then some (-value) else none
  else if value < Nat.pow 2 64 then some value else none

/-- Nothing if the number is too large for a floating-point number. -/
def value? : Option Number :=
  match n.integer? with
  | some i => some (.integer i)
  | none => n.real?

end Numeral

namespace Number

/-- Numbers are written without an exponent from a hundred-thousandth to below ten to the sixteenth.
-/
def layout : Decimal.Layout := ⟨fun e => -5 ≤ e ∧ e ≤ 15, .toEven⟩

def text : Number → String
  | integer i => toString i
  | real negative magnitude => layout.render negative magnitude

end Number

end SchemaInterfaces.Json
