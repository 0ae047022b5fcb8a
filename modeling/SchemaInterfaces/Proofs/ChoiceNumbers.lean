import SchemaInterfaces.Proofs.NumberText
import SchemaInterfaces.Schema.Decode

/-! Numbers as values of choices. What is kept of a number is the text of what was read, and that is
not always the number nearest to what was written. -/
namespace SchemaInterfaces.Json
open Text Decimal

variable {l k : Literal} {n m : Numeral} {x y : Number}

/-! Reading. -/

theorem digitsValue_concat (ds : List Char) (c : Char) :
    digitsValue 10 (ds ++ [c]) = 10 * digitsValue 10 ds + digitsValue 10 [c] := by
  simp [digitsValue]

theorem digitsValue_le_append (ds s : List Char) :
    digitsValue 10 ds ≤ digitsValue 10 (ds ++ s) := by
  induction s generalizing ds with
  | nil => rw [List.append_nil]
  | cons c s ih =>
    have hmore := ih (ds ++ [c])
    rw [digitsValue_concat, List.append_assoc, List.singleton_append] at hmore
    omega

namespace Numeral

/-- Digits that fit are taken in, all of them, behind those that were taken in before. -/
theorem takeIn_of_lt {ds s : List Char} (h : digitsValue 10 (ds ++ s) < 2 ^ 64) :
    takeIn (digitsValue 10 ds) s = (digitsValue 10 (ds ++ s), []) := by
  induction s generalizing ds with
  | nil => rw [takeIn, List.append_nil]
  | cons c s ih =>
    have happend : ds ++ c :: s = ds ++ [c] ++ s := by simp
    have hfits : digitsValue 10 (ds ++ [c]) < Nat.pow 2 64 :=
      (digitsValue_le_append (ds ++ [c]) s).trans_lt (happend ▸ h)
    rw [takeIn, ← digitsValue_concat, if_pos hfits, ih (happend ▸ h), happend]

theorem taken_eq_written (h : n.written.digits < 2 ^ 64) : n.taken = n.written := by
  have hwhole := (digitsValue_le_append n.whole (n.fraction.getD [])).trans_lt h
  have hzeros : takeIn 0 n.whole = (digitsValue 10 n.whole, []) := @takeIn_of_lt [] n.whole hwhole
  rw [taken, hzeros]
  dsimp only
  rw [takeIn_of_lt h]
  simp [written]

/-- Digits and a power of ten that are magnitudes both. -/
structure Short (n : Numeral) : Prop where
  digits : n.written.digits ≤ 2 ^ 53
  exp : n.written.exp.natAbs ≤ 22

theorem Short.value?_eq (h : n.Short) : n.value? = n.nearest? := by
  have htaken := taken_eq_written (h.digits.trans_lt (by decide))
  have hreal : n.real? =
      (Binary.nearest? n.written.digits n.written.exp).map (.real n.negative) := by
    rw [real?, htaken, scaled?_eq_nearest? h.digits h.exp]
  rw [value?, nearest?]
  cases n.integer? with
  | some i => rfl
  | none => exact hreal

/-- Short literals of one number are read as one number. -/
theorem Short.value?_congr (hn : n.Short) (hm : m.Short) (hnone : n.integer? = none)
    (hmnone : m.integer? = none) (hsign : n.negative = m.negative)
    (h : n.written.value = m.written.value) : n.value? = m.value? := by
  rw [hn.value?_eq, hm.value?_eq, nearest?_congr hnone hmnone hsign h]

end Numeral

namespace Number

/-- Numbers that can be read have texts of their own. -/
theorem text_inj (hx : x.Readable) (hy : y.Readable) : x.text = y.text ↔ x = y := by
  constructor
  · intro h
    have hspells := spells_text hx
    rw [h] at hspells
    exact hspells.unique (spells_text hy)
  · rintro rfl
    rfl

end Number

namespace Literal

/-- A literal is kept if it is the text of a number, and read as that number. -/
theorem text_eq_iff (h : l.numeral.value? = some x) :
    x.text.toList = l.text ↔
      l.numeral.nearest? = some x ∧ ∃ y : Number, y.Readable ∧ y.text.toList = l.text := by
  have hreadable := Numeral.readable_of_value? h
  constructor
  · intro htext
    obtain ⟨k, hk, hnearest⟩ := spells_text hreadable
    rw [numeral_eq (hk.trans htext)] at hnearest
    exact ⟨hnearest, x, hreadable, htext⟩
  · rintro ⟨hnearest, y, hy, htext⟩
    have hspells := spells_text hy
    rw [htext] at hspells
    rw [Spells.unique ⟨l, rfl, hnearest⟩ hspells, htext]

/-- A literal with digits alone is kept if it stands for an integer. -/
theorem text_eq_iff_integer (h : l.numeral.value? = some x) (hfraction : l.numeral.fraction = none)
    (hexponent : l.numeral.exponent = none) :
    x.text.toList = l.text ↔ l.numeral.integer?.isSome := by
  cases hinteger : l.numeral.integer? with
  | some i =>
    rw [Numeral.value?, hinteger] at h
    obtain rfl := Option.some.inj h
    exact iff_of_true (text_of_integer? hinteger) rfl
  | none =>
    rw [Numeral.value?, hinteger] at h
    obtain ⟨m, hm, rfl⟩ := Option.map_eq_some_iff.mp h
    refine iff_of_false (fun htext => ?_) Bool.false_ne_true
    have hdigits : ∀ c ∈ l.text, c ≠ '.' ∧ c ≠ 'e' := by
      rw [text, hfraction, hexponent, fractionText, exponentText, List.append_nil, List.append_nil]
      intro c hc
      rcases List.mem_append.mp hc with hsign | hwhole
      · obtain ⟨-, rfl⟩ : l.numeral.negative = true ∧ c = '-' := by simpa [signText] using hsign
        decide
      · have hdigit := l.whole.digit c hwhole
        constructor <;> rintro rfl <;> simp [isDigit] at hdigit
    rw [← htext] at hdigits
    exact (mem_render Number.layout l.numeral.negative m).elim
      (fun hmem => (hdigits _ hmem).1 rfl) (fun hmem => (hdigits _ hmem).2 rfl)

/-- The integers that fit 64 bits, with or without a sign, but for a negative zero. -/
theorem integer?_isSome_iff (hfraction : l.numeral.fraction = none)
    (hexponent : l.numeral.exponent = none) :
    l.numeral.integer?.isSome ↔
      if l.numeral.negative then
        0 < digitsValue 10 l.numeral.whole ∧ digitsValue 10 l.numeral.whole ≤ 2 ^ 63
      else digitsValue 10 l.numeral.whole < 2 ^ 64 := by
  unfold Numeral.integer?
  rw [hfraction, hexponent]
  split_ifs <;> simp_all

end Literal
end SchemaInterfaces.Json

namespace SchemaInterfaces.Schema.Choice
open Json Text

/-- A choice with a number for its value. -/
def numbered (l : Literal) (label : String) : Node := .array [.number l.numeral, .text label] true

theorem decode_numbered (depth : Nat) (l : Literal) (label : String) :
    decode depth (numbered l label) =
      (l.numeral.value?).elim (.error .malformed) fun x => .ok ⟨x.text, label⟩ := by
  cases h : l.numeral.value? with
  | none =>
    simp [decode, numbered, Decoder.pair, decodeValue, Node.readable, h]
    rfl
  | some x =>
    simp [decode, numbered, Decoder.pair, decodeValue, Node.readable, h]
    rfl

/-- A text that is a choice with a number for its value. -/
theorem ofText_numbered (depth : Nat) (l : Literal) {label : String} {rest : List Char}
    (hrest : Separated rest)
    (hlabel : Scan.read .between rest = [.comma, .text (some label), .closeArray]) :
    Decoder.ofText (decode depth) (String.ofList ('[' :: (l.text ++ rest))) =
      decode depth (numbered l label) := by
  have htokens : tokens (String.ofList ('[' :: (l.text ++ rest))) =
      [.openArray, .number l.numeral, .comma, .text (some label), .closeArray] := by
    rw [tokens, String.toList_ofList, Scan.run_eq, List.reverse_nil, List.nil_append]
    change .openArray :: Scan.read .between (l.text ++ rest) = _
    rw [l.read_text hrest, hlabel]
  have hsource : Json.Source.ofText (String.ofList ('[' :: (l.text ++ rest))) =
      ⟨numbered l label, true⟩ := by
    rw [Json.Source.ofText, htokens]
    rfl
  rw [Decoder.ofText, hsource]
  cases decode depth (numbered l label) <;> rfl

/-- A number is one token wherever it stands, and as the value of a choice it becomes the text of
the number that was read. No literal that this number is nearest to has fewer digits than that text.
So a literal is kept exactly if it is the text of a number and what was read of it is the nearest
number: with digits alone, if the integer fits 64 bits and is no negative zero. Of a short literal
the nearest number is always what is read. Two literals give one value exactly if they are read as
one number, as two short ones are that write one number and are no integers. -/
theorem decode_number (l : Literal) (depth : Nat) (label : String) :
    (∀ rest, Separated rest →
      Scan.read .between (l.text ++ rest) = .number l.numeral :: Scan.read .between rest) ∧
    (∀ rest, Separated rest →
      Scan.read .between rest = [.comma, .text (some label), .closeArray] →
      Decoder.ofText (decode depth) (String.ofList ('[' :: (l.text ++ rest))) =
        decode depth (numbered l label)) ∧
    (∀ c, decode depth (numbered l label) = .ok c ↔
      ∃ x, l.numeral.value? = some x ∧ c = ⟨x.text, label⟩) ∧
    ∀ x, l.numeral.value? = some x →
      (∃ k : Literal, k.text = x.text.toList ∧ k.numeral.nearest? = some x ∧
        ∀ j : Literal, j.numeral.nearest? = some x →
          k.numeral.written.significant ≤ j.numeral.written.significant) ∧
      (x.text.toList = l.text ↔
        l.numeral.nearest? = some x ∧ ∃ y : Number, y.Readable ∧ y.text.toList = l.text) ∧
      (l.numeral.fraction = none → l.numeral.exponent = none →
        (x.text.toList = l.text ↔
          if l.numeral.negative then
            0 < digitsValue 10 l.numeral.whole ∧ digitsValue 10 l.numeral.whole ≤ 2 ^ 63
          else digitsValue 10 l.numeral.whole < 2 ^ 64)) ∧
      (l.numeral.Short → l.numeral.nearest? = some x) ∧
      ∀ k : Literal,
        (∀ y, k.numeral.value? = some y → (y.text = x.text ↔ y = x)) ∧
        (k.numeral.Short → l.numeral.Short →
          k.numeral.integer? = none → l.numeral.integer? = none →
          k.numeral.negative = l.numeral.negative →
          k.numeral.written.value = l.numeral.written.value → k.numeral.value? = some x) := by
  refine ⟨fun rest => l.read_text, fun rest => ofText_numbered depth l, fun c => ?_,
    fun x hx => ⟨?_, Literal.text_eq_iff hx, ?_, ?_, fun k => ⟨fun y hy => ?_, ?_⟩⟩⟩
  · rw [decode_numbered]
    cases h : l.numeral.value? with
    | none => simp
    | some x => simp [eq_comm]
  · exact Number.exists_shortest (Numeral.readable_of_value? hx)
  · exact fun hfraction hexponent => (Literal.text_eq_iff_integer hx hfraction hexponent).trans
      (Literal.integer?_isSome_iff hfraction hexponent)
  · exact fun hshort => hshort.value?_eq ▸ hx
  · exact Number.text_inj (Numeral.readable_of_value? hy) (Numeral.readable_of_value? hx)
  · exact fun hk hl hknone hnone hsign hvalue =>
      (hk.value?_congr hl hknone hnone hsign hvalue).trans hx

/-- A zero behind the last digit is lost, and a number may be read as another than the nearest. -/
theorem ofText_numbers :
    Decoder.ofText (decode 0) "[2.0, \"A\"]" = .ok ⟨"2.0", "A"⟩ ∧
      Decoder.ofText (decode 0) "[2.00, \"B\"]" = .ok ⟨"2.0", "B"⟩ ∧
      Decoder.ofText (decode 0) "[1.602176634e-19, \"C\"]" =
        .ok ⟨"1.6021766340000001e-19", "C"⟩ := by
  decide +kernel

end SchemaInterfaces.Schema.Choice
