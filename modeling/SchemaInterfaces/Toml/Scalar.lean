import SchemaInterfaces.Decimal.Layout
import SchemaInterfaces.Text.Digit
import SchemaInterfaces.Text.Split

/-! Values of TOML that are written without quotes or brackets. -/

namespace SchemaInterfaces.Toml
open Text

/-- A floating-point number. -/
inductive Real where
  | nan
  | infinite (negative : Bool)
  | finite (negative : Bool) (magnitude : Decimal.Binary)
deriving Repr, DecidableEq

namespace Real

/-- Numbers are never written with an exponent. -/
def layout : Decimal.Layout := ⟨fun _ => true, .up⟩

def text : Real → String
  | nan => "NaN"
  | infinite negative => if negative then "-inf" else "inf"
  | finite negative magnitude => layout.render negative magnitude

end Real

inductive Scalar where
  | integer (i : Int)
  | real (x : Real)
  | boolean (b : Bool)
  /-- A date, a time, or both. -/
  | moment
deriving Repr, DecidableEq

/-- Digits, with underscores only between two of them. -/
def digits? (ok : Char → Bool) (s : List Char) : Option (List Char) :=
  let groups := splitBy (· == '_') s
  if groups.all fun g => !g.isEmpty && g.all ok then some groups.flatten else none

/-- Decimal digits of which the first is no zero unless it is alone. -/
def natural? (s : List Char) : Option (List Char) :=
  if s.head? = some '0' ∧ 1 < s.length then none else digits? isDigit s

/-- Takes a sign off; whether it was a minus. -/
def unsign : List Char → Bool × List Char
  | '+' :: s => (false, s)
  | '-' :: s => (true, s)
  | s => (false, s)

/-- Integers that do not fit 64 bits with a sign are none. -/
def bounded? (i : Int) : Option Int :=
  if -(Nat.pow 2 63 : Nat) ≤ i ∧ i < (Nat.pow 2 63 : Nat) then some i else none

/-- A number in another base than ten, which has no sign. -/
def based? (base : Nat) (s : List Char) : Option Int := do
  let ds ← digits? (fun c => (hexValue? c).any (· < base)) s
  bounded? (digitsValue base ds)

def integer? : List Char → Option Int
  | '0' :: 'x' :: s => based? 16 s
  | '0' :: 'o' :: s => based? 8 s
  | '0' :: 'b' :: s => based? 2 s
  | s => do
    let (negative, s) := unsign s
    let value : Int := digitsValue 10 (← natural? s)
    bounded? (if negative then -value else value)

/-- The exponent that follows the mark; zero without one. -/
def exponent? : Option (List Char) → Option Int
  | none => some 0
  | some s => do
    let (negative, s) := unsign s
    let value : Int := digitsValue 10 (← digits? isDigit s)
    return if negative then -value else value

/-- A number with a fraction, an exponent or both. One too large is infinite if it is negative and
none at all otherwise. -/
def finite? (negative : Bool) (s : List Char) : Option Real := do
  let (mantissa, exponent) := cut (fun c => c == 'e' || c == 'E') s
  let (whole, fraction) := cut (· == '.') mantissa
  if fraction.isNone ∧ exponent.isNone then none
  else
    let whole ← natural? whole
    let fraction ← (fraction.map (digits? isDigit)).getD (some [])
    let exponent ← exponent? exponent
    let digits := digitsValue 10 (whole ++ fraction)
    match Decimal.Binary.nearest? digits (exponent - fraction.length) with
    | some magnitude => some (.finite negative magnitude)
    | none => if negative then some (.infinite true) else none

def real? (s : List Char) : Option Real :=
  match unsign s with
  | (negative, ['i', 'n', 'f']) => some (.infinite negative)
  | (_, ['n', 'a', 'n']) => some .nan
  | (negative, s) => finite? negative s

def isLeap (year : Nat) : Bool := year % 4 == 0 && (year % 100 != 0 || year % 400 == 0)

def daysIn (year month : Nat) : Nat :=
  if month = 2 then if isLeap year then 29 else 28
  else if month ∈ [4, 6, 9, 11] then 30
  else 31

/-- Two digits that write a number in the given range. -/
def isPair (lo hi : Nat) (a b : Char) : Bool :=
  let value := digitsValue 10 [a, b]
  isDigit a && isDigit b && decide (lo ≤ value) && decide (value ≤ hi)

def isDate : List Char → Bool
  | [a, b, c, d, '-', e, f, '-', g, h] =>
    let year := digitsValue 10 [a, b, c, d]
    let month := digitsValue 10 [e, f]
    [a, b, c, d].all isDigit && isPair 1 12 e f && isPair 1 (daysIn year month) g h
  | _ => false

def isTime : List Char → Bool
  | a :: b :: ':' :: c :: d :: ':' :: e :: f :: rest =>
    isPair 0 23 a b && isPair 0 59 c d && isPair 0 60 e f &&
      match rest with
      | [] => true
      | '.' :: fraction => !fraction.isEmpty && fraction.all isDigit
      | _ => false
  | _ => false

def isOffset : List Char → Bool
  | ['Z'] | ['z'] => true
  | [s, a, b, ':', c, d] => (s == '+' || s == '-') && isPair 0 23 a b && isPair 0 59 c d
  | _ => false

/-- A time with or without an offset. -/
def isClock (s : List Char) : Bool :=
  let time := s.takeWhile fun c => !(['Z', 'z', '+', '-'].contains c)
  let offset := s.drop time.length
  isTime time && (offset.isEmpty || isOffset offset)

def isMoment (s : List Char) : Bool :=
  isTime s || isDate s ||
    isDate (s.take 10) &&
      match s.drop 10 with
      | [] => false
      | c :: clock => ['T', 't', ' '].contains c && isClock clock

namespace Scalar

/-- Reads a word as a value. -/
def ofWord? (s : List Char) : Option Scalar :=
  if s = ['t', 'r', 'u', 'e'] then some (.boolean true)
  else if s = ['f', 'a', 'l', 's', 'e'] then some (.boolean false)
  else if isMoment s then some .moment
  else (integer? s).map integer <|> (real? s).map real

end Scalar

end SchemaInterfaces.Toml
