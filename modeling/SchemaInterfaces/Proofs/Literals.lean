import SchemaInterfaces.Text.Digit
import SchemaInterfaces.TypeScript.Enum

/-! String literals of the generated language, and what the values of enum members are as such: a
value becomes a literal that stands for it, unless it holds a line break. -/
namespace SchemaInterfaces.Text

/-- The code units of a code point in UTF-16. -/
def codeUnits (n : Nat) : List Nat :=
  if n < 0x10000 then [n]
  else [0xD800 + (n - 0x10000) / 0x400, 0xDC00 + (n - 0x10000) % 0x400]

/-- A text as a string of the generated language: its code units. -/
def utf16 (s : String) : List Nat := s.toList.flatMap fun c => codeUnits c.toNat

/-- How far a literal between single quotes has been read. -/
inductive LiteralState where
  | plain
  | escape
  /-- Behind `\0`, which no digit may follow. -/
  | nul
  /-- Behind a backslash and a carriage return, to which a line feed belongs. -/
  | carriage
  /-- In an escape of hexadecimal digits: so many are to come after the next one. -/
  | hex (left value : Nat)
  | unicode
  /-- Behind `\u` and a brace, with what the digits amount to, if there are any yet. -/
  | braced (value : Option Nat)
deriving Repr, DecidableEq

namespace LiteralState

/-- The literal may end here. -/
def final : LiteralState → Bool
  | plain | nul | carriage => true
  | escape | hex .. | unicode | braced _ => false

/-- A character outside all escapes. Neither the quote nor a line break may stand for itself. -/
def plainChar (c : Char) : Option (List Nat × LiteralState) :=
  if c = '\'' ∨ c = '\n' ∨ c = '\r' then none
  else if c = '\\' then some ([], escape)
  else some (codeUnits c.toNat, plain)

/-- The character behind a backslash. Line breaks there continue the line, and digits other than a
single `0` are not allowed in modules. -/
def escapedChar : Char → Option (List Nat × LiteralState)
  | 'b' => some ([0x08], plain)
  | 't' => some ([0x09], plain)
  | 'n' => some ([0x0A], plain)
  | 'v' => some ([0x0B], plain)
  | 'f' => some ([0x0C], plain)
  | 'r' => some ([0x0D], plain)
  | '0' => some ([0], nul)
  | 'x' => some ([], hex 1 0)
  | 'u' => some ([], unicode)
  | '\r' => some ([], carriage)
  | '\n' | '\u2028' | '\u2029' => some ([], plain)
  | c => if isDigit c then none else some (codeUnits c.toNat, plain)

def hexDigit (left value : Nat) (c : Char) : Option (List Nat × LiteralState) := do
  let value := 16 * value + (← hexValue? c)
  match left with
  | 0 => some (codeUnits value, plain)
  | left + 1 => some ([], hex left value)

def bracedChar (value : Option Nat) (c : Char) : Option (List Nat × LiteralState) :=
  if c = '\x7d' then value.map (codeUnits ·, plain)
  else do
    let value := 16 * value.getD 0 + (← hexValue? c)
    if value ≤ 0x10FFFF then some ([], braced (some value)) else none

/-- The code units that one more character gives, and the state behind it. -/
def step : LiteralState → Char → Option (List Nat × LiteralState)
  | plain, c => plainChar c
  | escape, c => escapedChar c
  | nul, c => if isDigit c then none else plainChar c
  | carriage, c => if c = '\n' then some ([], plain) else plainChar c
  | hex left value, c => hexDigit left value c
  | unicode, c => if c = '\x7b' then some ([], braced none) else hexDigit 3 0 c
  | braced value, c => bracedChar value c

/-- The code units of what a literal has from a state on. -/
def units? : LiteralState → List Char → Option (List Nat)
  | p, [] => if p.final then some [] else none
  | p, c :: s => do
    let (us, q) ← p.step c
    let rest ← q.units? s
    return us ++ rest

end LiteralState

/-- The string that a text stands for, if it is a literal between single quotes. -/
def stringValue? (text : String) : Option (List Nat) :=
  match text.toList with
  | '\'' :: rest => if rest.getLast? = some '\'' then LiteralState.plain.units? rest.dropLast else none
  | _ => none

/-- Every kind of escape, and a line that goes on. -/
example : stringValue? "'\\x41\\u0042\\u\x7b1F600\x7d\\n\\q\\0\\\r\n\\'\u2028'" =
    some [0x41, 0x42, 0xD83D, 0xDE00, 0x0A, 0x71, 0, 0x27, 0x2028] := by
  decide +kernel

variable {c d : Char} {l m : List Nat} {s t : List Char}

/-- The code units of two characters are apart at the first one that differs: those of a pair are in
a range of their own. -/
theorem codeUnits_append_inj (h : codeUnits c.toNat ++ l = codeUnits d.toNat ++ m) :
    c = d ∧ l = m := by
  have hc : c.toNat < 0xD800 ∨ 0xDFFF < c.toNat ∧ c.toNat < 0x110000 := c.valid
  have hd : d.toNat < 0xD800 ∨ 0xDFFF < d.toNat ∧ d.toNat < 0x110000 := d.valid
  unfold codeUnits at h
  rw [← Char.toNat_inj]
  split at h <;> split at h <;> simp only [List.cons_append, List.nil_append, List.cons.injEq] at h
  · exact h
  · omega
  · omega
  · exact ⟨by omega, h.2.2⟩

theorem codeUnits_ne_nil (n : Nat) : codeUnits n ≠ [] := by
  unfold codeUnits
  split <;> simp

theorem flatMap_codeUnits_injective :
    Function.Injective fun s : List Char => s.flatMap fun c => codeUnits c.toNat := by
  intro s t h
  dsimp only at h
  induction s generalizing t with
  | nil =>
    cases t with
    | nil => rfl
    | cons d t => simp [codeUnits_ne_nil] at h
  | cons c s ih =>
    cases t with
    | nil => simp [codeUnits_ne_nil] at h
    | cons d t =>
      rw [List.flatMap_cons, List.flatMap_cons] at h
      obtain ⟨rfl, hrest⟩ := codeUnits_append_inj h
      rw [ih hrest]

theorem utf16_injective : Function.Injective utf16 := by
  intro s t h
  exact String.toList_inj.mp (flatMap_codeUnits_injective h)

namespace LiteralState

theorem units?_break (hc : c = '\n' ∨ c = '\r') : plain.units? (c :: s) = none := by
  simp [units?, step, plainChar, hc]

theorem units?_plain (hc : ¬ (c = '\n' ∨ c = '\r')) (hquote : ¬ (c = '\\' ∨ c = '\'')) :
    plain.units? (c :: s) = (plain.units? s).map (codeUnits c.toNat ++ ·) := by
  rw [not_or] at hc hquote
  cases h : plain.units? s <;> simp [units?, step, plainChar, hc, hquote, h]

theorem units?_escaped (hquote : c = '\\' ∨ c = '\'') :
    plain.units? ('\\' :: c :: s) = (plain.units? s).map (codeUnits c.toNat ++ ·) := by
  cases h : plain.units? s <;> rcases hquote with rfl | rfl <;>
    simp [units?, step, plainChar, escapedChar, isDigit, h]

end LiteralState

end SchemaInterfaces.Text

namespace SchemaInterfaces.TypeScript
open Schema Text

/-- The literal that is written for the value of a member. -/
def quoted (value : String) : String :=
  "'" ++ String.ofList (escapeQuoted value.toList) ++ "'"

theorem memberLine_eq (m : Member) :
    EnumDecl.memberLine m = "  " ++ m.name ++ " = " ++ quoted m.value ++ ",\n" := by
  rw [← String.toList_inj]
  simp [EnumDecl.memberLine, quoted]

/-- What stands between the quotes is read back, unless a line break ends the literal early. -/
theorem units?_escapeQuoted (s : List Char) : LiteralState.plain.units? (escapeQuoted s) =
    if '\n' ∈ s ∨ '\r' ∈ s then none else some (s.flatMap fun c => codeUnits c.toNat) := by
  induction s with
  | nil => rfl
  | cons c s ih =>
    rw [escapeQuoted]
    split
    · rename_i hquote
      have hc : '\n' ≠ c ∧ '\r' ≠ c := by rcases hquote with rfl | rfl <;> decide
      rw [LiteralState.units?_escaped hquote, ih]
      by_cases hs : '\n' ∈ s ∨ '\r' ∈ s <;> simp [hc, hs]
    · rename_i hquote
      by_cases hc : c = '\n' ∨ c = '\r'
      · have hmem : '\n' ∈ c :: s ∨ '\r' ∈ c :: s := by rcases hc with rfl | rfl <;> simp
        rw [LiteralState.units?_break hc, if_pos hmem]
      · rw [LiteralState.units?_plain hc hquote, ih]
        rw [not_or] at hc
        by_cases hs : '\n' ∈ s ∨ '\r' ∈ s <;> simp [Ne.symm hc.1, Ne.symm hc.2, hs]

theorem stringValue?_quoted (value : String) : stringValue? (quoted value) =
    if '\n' ∈ value.toList ∨ '\r' ∈ value.toList then none else some (utf16 value) := by
  have htext : (quoted value).toList = '\'' :: (escapeQuoted value.toList ++ ['\'']) := by
    simp [quoted]
  rw [stringValue?, htext]
  simp [units?_escapeQuoted, utf16]

/-- The value of a member stands in its line as a literal, and that literal stands for a text
exactly if the text is the value and has no line break. With a line feed or a carriage return in the
value it is no literal at all. -/
theorem stringValue?_quoted_iff (m : Member) :
    EnumDecl.memberLine m = "  " ++ m.name ++ " = " ++ quoted m.value ++ ",\n" ∧
    (∀ text : String, stringValue? (quoted m.value) = some (utf16 text) ↔
      m.value = text ∧ '\n' ∉ m.value.toList ∧ '\r' ∉ m.value.toList) ∧
    (stringValue? (quoted m.value) = none ↔
      '\n' ∈ m.value.toList ∨ '\r' ∈ m.value.toList) := by
  refine ⟨memberLine_eq m, ?_, ?_⟩
  · intro text
    rw [stringValue?_quoted]
    split
    · rename_i hbreak
      have hnot : ¬ ('\n' ∉ m.value.toList ∧ '\r' ∉ m.value.toList) := fun h =>
        hbreak.elim h.1 h.2
      simp [hnot]
    · rename_i hplain
      rw [Option.some_inj, utf16_injective.eq_iff, and_iff_left (not_or.mp hplain)]
  · rw [stringValue?_quoted]
    split <;> simp_all

/-- A value of two lines gives a member that is not on one line, and no literal. -/
theorem quoted_two_lines :
    (EnumDecl.ofChoices "NoteEnum" [⟨"a\nb", "A"⟩]).render =
        "export enum NoteEnum \x7b\n  A = 'a\nb',\n\x7d" ∧
      stringValue? (quoted "a\nb") = none := by
  decide +kernel

end SchemaInterfaces.TypeScript
