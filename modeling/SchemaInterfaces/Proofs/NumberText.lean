import Mathlib.Data.List.Induction
import SchemaInterfaces.Proofs.FewestDigits
import SchemaInterfaces.Proofs.NumberLiterals
import SchemaInterfaces.Proofs.Products

/-! The text of a number is a literal to which no other number is nearer, and the shortest. -/
namespace SchemaInterfaces.Json
open Text Decimal

variable {ds s : List Char} {n : Nat} {e : Int} {x : Binary} {negative : Bool} {l k : Literal}

/-! Decimal digits. -/

theorem hexValue?_of_isDigit {c : Char} (h : isDigit c = true) :
    hexValue? c = some (c.toNat - 48) := by
  rw [isDigit, Bool.and_eq_true, decide_eq_true_iff, decide_eq_true_iff] at h
  rw [hexValue?, if_pos h]

theorem digitsValue_eq (h : ∀ c ∈ ds, isDigit c = true) :
    digitsValue 10 ds = Nat.ofDigitChars 10 ds 0 := by
  rw [digitsValue, Nat.ofDigitChars_eq_foldl]
  refine List.foldl_ext _ _ 0 fun acc c hc => ?_
  rw [hexValue?_of_isDigit (h c hc), Option.getD_some]
  rfl

theorem digitsValue_append (h : ∀ c ∈ ds, isDigit c = true) (hs : ∀ c ∈ s, isDigit c = true) :
    digitsValue 10 (ds ++ s) = 10 ^ s.length * digitsValue 10 ds + digitsValue 10 s := by
  have happend : ∀ c ∈ ds ++ s, isDigit c = true := fun c hc =>
    (List.mem_append.mp hc).elim (h c) (hs c)
  rw [digitsValue_eq happend, digitsValue_eq h, digitsValue_eq hs, Nat.ofDigitChars_append,
    Nat.ofDigitChars_eq_ofDigitChars_zero]

theorem digitsValue_replicate (n : Nat) : digitsValue 10 (List.replicate n '0') = 0 := by
  have h : ∀ c ∈ List.replicate n '0', isDigit c = true := fun c hc => by
    rw [List.eq_of_mem_replicate hc]
    rfl
  rw [digitsValue_eq h, Nat.ofDigitChars_replicate_zero, Nat.mul_zero]

theorem isDigits_toDigits (n : Nat) : IsDigits (Nat.toDigits 10 n) :=
  ⟨Nat.toDigits_ne_nil, fun _ => Nat.isDigit_of_mem_toDigits (by decide) (by decide)⟩

theorem digitsValue_toDigits (n : Nat) : digitsValue 10 (Nat.toDigits 10 n) = n := by
  rw [digitsValue_eq (isDigits_toDigits n).digit, Nat.ofDigitChars_ten_toDigits]

theorem head?_toDigits (hn : 0 < n) : (Nat.toDigits 10 n).head? ≠ some '0' := by
  induction n using Nat.strongRecOn with
  | ind n ih =>
    rw [Nat.toDigits_eq_if (by decide)]
    split
    · rename_i hlt
      have hdigit : ∀ n < 10, 0 < n → Nat.digitChar n ≠ '0' := by decide
      simpa using hdigit n hlt hn
    · have hdiv := ih (n / 10) (by omega) (by omega)
      rwa [List.head?_append_of_ne_nil _ Nat.toDigits_ne_nil]

theorem toDigits_digit {c : Char} (h : isDigit c = true) :
    digitsValue 10 [c] < 10 ∧ Nat.toDigits 10 (digitsValue 10 [c]) = [c] := by
  have hc := digit_cases h
  simp only [List.mem_cons, List.not_mem_nil, or_false] at hc
  rcases hc with rfl | rfl | rfl | rfl | rfl | rfl | rfl | rfl | rfl | rfl <;> decide

/-- Digits that do not start with a needless zero are the digits of their value. -/
theorem toDigits_digitsValue (h : ∀ c ∈ ds, isDigit c = true) (hne : ds ≠ [])
    (hlead : ds.head? = some '0' → ds = ['0']) : Nat.toDigits 10 (digitsValue 10 ds) = ds := by
  induction ds using List.reverseRecOn with
  | nil => exact (hne rfl).elim
  | append_singleton init c ih =>
    rw [List.forall_mem_append, List.forall_mem_singleton] at h
    obtain ⟨hlt, hlast⟩ := toDigits_digit h.2
    obtain rfl | hinit := eq_or_ne init []
    · exact hlast
    · have hhead : init.head? ≠ some '0' := fun hzero => by
        rw [List.head?_append_of_ne_nil _ hinit] at hlead
        have hlength := congrArg List.length (hlead hzero)
        rw [List.length_append] at hlength
        exact hinit (List.length_eq_zero_iff.mp (by simpa using hlength))
      have hdigits := ih h.1 hinit fun hzero => absurd hzero hhead
      have hpos : 0 < digitsValue 10 init := by
        refine Nat.pos_of_ne_zero fun hzero => hhead ?_
        rw [← hdigits, hzero, Nat.toDigits_zero]
        rfl
      have hc : ∀ d ∈ [c], isDigit d = true := by simpa using h.2
      rw [digitsValue_append h.1 hc, List.length_singleton, pow_one,
        ← Nat.toDigits_append_toDigits (by decide) hpos hlt, hdigits, hlast]

/-! Layouts. -/

theorem isDigit_of_mem_replicate {c : Char} (h : c ∈ List.replicate n '0') : isDigit c = true := by
  rw [List.eq_of_mem_replicate h]
  rfl

theorem isDigits_zero : IsDigits ['0'] := ⟨by simp, by simp [isDigit]⟩

theorem IsDigits.append (h : IsDigits ds) (hs : ∀ c ∈ s, isDigit c = true) : IsDigits (ds ++ s) :=
  ⟨by simp [h.ne_nil], fun c hc => (List.mem_append.mp hc).elim (h.digit c) (hs c)⟩

/-- Digits with a point among them, and the number that they write. -/
def Pointed (s : List Char) (v : ℚ) : Prop :=
  ∃ whole fraction, s = whole ++ '.' :: fraction ∧ IsDigits whole ∧
    (whole.head? = some '0' → whole = ['0']) ∧ IsDigits fraction ∧
    (digitsValue 10 (whole ++ fraction) : ℚ) * 10 ^ (-(fraction.length : Int)) = v

theorem pointed_small (h : IsDigits ds) (n : Nat) :
    Pointed (['0', '.'] ++ List.replicate n '0' ++ ds)
      (digitsValue 10 ds * 10 ^ (-(n + ds.length : Int))) := by
  have hzeros : ∀ c ∈ List.replicate n '0', isDigit c = true := fun c => isDigit_of_mem_replicate
  have hfraction : ∀ c ∈ List.replicate n '0' ++ ds, isDigit c = true := fun c hc =>
    (List.mem_append.mp hc).elim (hzeros c) (h.digit c)
  refine ⟨['0'], List.replicate n '0' ++ ds, by simp, isDigits_zero, fun _ => rfl,
    ⟨by simp [h.ne_nil], hfraction⟩, ?_⟩
  rw [digitsValue_append isDigits_zero.digit hfraction, digitsValue_append hzeros h.digit,
    digitsValue_replicate]
  simp [digitsValue, hexValue?]

theorem pointed_whole (h : IsDigits ds) (hlead : ds.head? ≠ some '0') (n : Nat) :
    Pointed (ds ++ List.replicate n '0' ++ ['.', '0']) (digitsValue 10 ds * 10 ^ (n : Int)) := by
  have hzeros : ∀ c ∈ List.replicate n '0', isDigit c = true := fun c => isDigit_of_mem_replicate
  have hwhole := h.append hzeros
  have hhead : (ds ++ List.replicate n '0').head? ≠ some '0' := by
    rwa [List.head?_append_of_ne_nil _ h.ne_nil]
  refine ⟨ds ++ List.replicate n '0', ['0'], by simp, hwhole, fun hzero => absurd hzero hhead,
    isDigits_zero, ?_⟩
  rw [digitsValue_append hwhole.digit isDigits_zero.digit, digitsValue_append h.digit hzeros,
    digitsValue_replicate]
  have hzero : digitsValue 10 ['0'] = 0 := by decide
  rw [hzero, List.length_replicate, List.length_singleton]
  push_cast
  rw [zpow_neg, zpow_one, zpow_natCast]
  ring

theorem pointed_inside (h : IsDigits ds) (hlead : ds.head? ≠ some '0') (hn : 0 < n)
    (hlt : n < ds.length) : Pointed (ds.take n ++ ['.'] ++ ds.drop n)
      (digitsValue 10 ds * 10 ^ (n - ds.length : Int)) := by
  have hwhole : ds.take n ≠ [] := fun hnil => by
    rw [List.take_eq_nil_iff] at hnil
    exact hnil.elim (by omega) h.ne_nil
  have hfraction : ds.drop n ≠ [] := fun hnil => by
    rw [List.drop_eq_nil_iff] at hnil
    omega
  have hhead : (ds.take n).head? ≠ some '0' := by
    rwa [List.head?_take, if_neg (by omega)]
  refine ⟨ds.take n, ds.drop n, by simp, ⟨hwhole, fun c hc => h.digit c (List.mem_of_mem_take hc)⟩,
    fun hzero => absurd hzero hhead,
    ⟨hfraction, fun c hc => h.digit c (List.mem_of_mem_drop hc)⟩, ?_⟩
  rw [List.take_append_drop, List.length_drop, Nat.cast_sub hlt.le, neg_sub]

/-- A number without an exponent, its first digit being that of `10 ^ e`. -/
theorem pointed_plainText (h : IsDigits ds) (hlead : ds.head? ≠ some '0') (e : Int) :
    Pointed (plainText ds e) (digitsValue 10 ds * 10 ^ (e + 1 - ds.length)) := by
  unfold plainText
  dsimp only
  split
  · have hexp : e + 1 - ds.length = -((-e - 1).toNat + ds.length : Int) := by omega
    rw [hexp]
    exact pointed_small h _
  · split
    · rename_i hlen
      have hexp : e + 1 - ds.length = (e.toNat + 1 - ds.length : Nat) := by omega
      rw [hexp]
      exact pointed_whole h hlead _
    · have hexp : e + 1 - ds.length = (e.toNat + 1 : Nat) - ds.length := by omega
      rw [hexp]
      exact pointed_inside h hlead (by omega) (by omega)

/-! Numbers. -/

namespace Numeral
variable {n k : Numeral}

/-- The digits that are written, with their power of ten. -/
def written (n : Numeral) : Digits :=
  ⟨digitsValue 10 (n.whole ++ n.fraction.getD []), n.power - (n.fraction.getD []).length⟩

/-- The number nearest to the one that is written. -/
def nearest? (n : Numeral) : Option Number :=
  match n.integer? with
  | some i => some (.integer i)
  | none => (Binary.nearest? n.written.digits n.written.exp).map (.real n.negative)

theorem integer?_eq_none (h : n.fraction.isSome ∨ n.exponent.isSome) : n.integer? = none := by
  rw [integer?, if_pos h]

/-- Where no integer is written, the nearest number depends on the number written alone. -/
theorem nearest?_congr (hn : n.integer? = none) (hk : k.integer? = none)
    (hsign : n.negative = k.negative) (h : n.written.value = k.written.value) :
    n.nearest? = k.nearest? := by
  rw [nearest?, nearest?, hn, hk, hsign, Binary.nearest?_congr h]

end Numeral

/-- The text is a literal with a point or an exponent, and writes this number. -/
def Writes (s : List Char) (negative : Bool) (v : ℚ) : Prop :=
  ∃ l : Literal, l.text = s ∧ l.numeral.negative = negative ∧
    (l.numeral.fraction.isSome ∨ l.numeral.exponent.isSome) ∧ l.numeral.written.value = v

theorem writes_pointed {v : ℚ} (negative : Bool) (h : Pointed s v) :
    Writes (Literal.signText negative ++ s) negative v := by
  obtain ⟨whole, fraction, rfl, hwhole, hlead, hfraction, rfl⟩ := h
  let l : Literal :=
    { numeral := ⟨negative, whole, some fraction, none⟩, mark := 'e', plus := false
      whole := hwhole, leading := hlead, fraction := by simpa using hfraction
      exponent := by simp, mark_eq := .inl rfl }
  refine ⟨l, ?_, rfl, .inl rfl, ?_⟩
  · simp [l, Literal.text, Literal.fractionText, Literal.exponentText]
  · simp [l, Numeral.written, Numeral.power, Digits.value]

theorem power_toDigits (negative : Bool) (whole : List Char) (fraction : Option (List Char))
    (e : Int) : Numeral.power
      ⟨negative, whole, fraction, some (decide (e < 0), Nat.toDigits 10 e.natAbs)⟩ = e := by
  by_cases he : e < 0
  · rw [Numeral.power, decide_eq_true he]
    simp only [digitsValue_toDigits]
    omega
  · rw [Numeral.power, decide_eq_false he]
    simp only [digitsValue_toDigits]
    omega

theorem writes_exponentText (negative : Bool) (h : IsDigits ds) (hlead : ds.head? ≠ some '0')
    (e : Int) : Writes (Literal.signText negative ++ exponentText ds e) negative
      (digitsValue 10 ds * 10 ^ (e + 1 - ds.length)) := by
  obtain ⟨c, t, rfl⟩ := List.exists_cons_of_ne_nil h.ne_nil
  have hdigits := h.digit
  rw [List.forall_mem_cons] at hdigits
  have hc : c ≠ '0' := by simpa using hlead
  let fraction := if t = [] then none else some t
  have hfraction : ∀ ds ∈ fraction, IsDigits ds := by
    intro ds hds
    obtain ⟨ht, rfl⟩ : ¬ t = [] ∧ t = ds := by simpa [fraction] using hds
    exact ⟨ht, hdigits.2⟩
  have hget : fraction.getD [] = t := by
    by_cases ht : t = [] <;> simp [fraction, ht]
  let l : Literal :=
    { numeral :=
        ⟨negative, [c], fraction, some (decide (e < 0), Nat.toDigits 10 e.natAbs)⟩
      mark := 'e'
      plus := true
      whole := ⟨by simp, by simpa using hdigits.1⟩
      leading := by simp [hc]
      fraction := hfraction
      exponent := by simpa using isDigits_toDigits e.natAbs
      mark_eq := .inl rfl }
  refine ⟨l, ?_, rfl, .inr rfl, ?_⟩
  · have hmore : (if (c :: t).length ≤ 1 then [] else '.' :: t) =
        Literal.fractionText fraction := by
      cases t <;> simp [fraction, Literal.fractionText]
    have hsign : [if e < 0 then '-' else '+'] = Literal.exponentSign (decide (e < 0)) true := by
      by_cases he : e < 0 <;> simp [Literal.exponentSign, he]
    rw [exponentText, List.drop_one, List.tail_cons, hmore]
    simp [l, Literal.text, Literal.exponentText, ← hsign]
  · have hexp : e - (t.length : Int) = e + 1 - (c :: t).length := by
      rw [List.length_cons]
      push_cast
      omega
    simp only [l, Numeral.written, Digits.value, power_toDigits, hget, List.singleton_append, hexp]

/-- A magnitude above zero in any layout writes its digits. -/
theorem writes_render (layout : Layout) (negative : Bool) (hm : 0 < x.m) :
    Writes (layout.render negative x).toList negative (shortest layout.tie x).value := by
  rw [Layout.render, String.toList_ofList]
  change Writes (Literal.signText negative ++ layout.magnitude x) negative _
  have hpos := digits_shortest_pos layout.tie hm
  rw [Layout.magnitude, if_neg hm.ne']
  generalize shortest layout.tie x = d at hpos
  dsimp only
  have hdigits := isDigits_toDigits d.digits
  have hlead := head?_toDigits hpos
  have hvalue : (digitsValue 10 (Nat.toDigits 10 d.digits) : ℚ) *
      10 ^ (d.exp + (Nat.toDigits 10 d.digits).length - 1 + 1 -
        (Nat.toDigits 10 d.digits).length : Int) = d.value := by
    rw [digitsValue_toDigits, Digits.value]
    congr 2
    omega
  rw [← hvalue]
  split
  · exact writes_pointed negative (pointed_plainText hdigits hlead _)
  · exact writes_exponentText negative hdigits hlead _

theorem writes_zero (layout : Layout) (negative : Bool) (hm : x.m = 0) :
    Writes (layout.render negative x).toList negative 0 := by
  have hdigits : digitsValue 10 ['0'] = 0 := by decide
  have hpointed : Pointed ['0', '.', '0'] 0 := by
    simpa [hdigits] using pointed_small isDigits_zero 0
  rw [Layout.render, String.toList_ofList, Layout.magnitude, if_pos hm]
  exact writes_pointed negative hpointed

/-- The text is a literal to which no other number is nearer. -/
def Spells (s : List Char) (x : Number) : Prop :=
  ∃ l : Literal, l.text = s ∧ l.numeral.nearest? = some x

/-- Integers of 64 bits, with or without a sign, and magnitudes. No other numbers are read. -/
def Number.Readable : Number → Prop
  | .integer i => -2 ^ 63 ≤ i ∧ i < 2 ^ 64
  | .real _ x => x.Canonical

theorem Numeral.readable_of_integer? {n : Numeral} {i : Int} (h : n.integer? = some i) :
    Number.Readable (.integer i) := by
  unfold integer? at h
  dsimp only at h
  have hmin : Nat.pow 2 63 = 2 ^ 63 := rfl
  have hmax : Nat.pow 2 64 = 2 ^ 64 := rfl
  split_ifs at h
  all_goals
    obtain rfl := Option.some.inj h
    constructor <;> omega

theorem Numeral.readable_of_value? {n : Numeral} {x : Number} (h : n.value? = some x) :
    x.Readable := by
  unfold value? at h
  split at h
  · rename_i i hi
    obtain rfl := Option.some.inj h
    exact readable_of_integer? hi
  · obtain ⟨x, hx, rfl⟩ := Option.map_eq_some_iff.mp h
    exact canonical_of_scaled? hx

/-- An integer that is written with its digits alone. -/
def Literal.ofInteger (negative : Bool) (n : Nat) : Literal where
  numeral := ⟨negative, Nat.toDigits 10 n, none, none⟩
  mark := 'e'
  plus := false
  whole := isDigits_toDigits n
  leading := fun h => by
    obtain rfl : n = 0 := by
      by_contra hn
      exact head?_toDigits (Nat.pos_of_ne_zero hn) h
    rfl
  fraction := by simp
  exponent := by simp
  mark_eq := .inl rfl

theorem Literal.text_ofInteger (negative : Bool) (n : Nat) :
    (ofInteger negative n).text = signText negative ++ Nat.toDigits 10 n := by
  simp [text, ofInteger, fractionText, exponentText]

theorem Literal.integer?_ofInteger (negative : Bool) (n : Nat) :
    (ofInteger negative n).numeral.integer? =
      if negative then if 0 < n ∧ n ≤ 2 ^ 63 then some (-n : Int) else none
      else if n < 2 ^ 64 then some (n : Int) else none := by
  simp [Numeral.integer?, ofInteger, digitsValue_toDigits]

theorem toList_toString_natCast (n : Nat) :
    (toString (n : Int)).toList = (Literal.ofInteger false n).text := by
  have htext : toString (n : Int) = toString n := rfl
  rw [htext, Nat.toString_eq_ofList_toDigits, String.toList_ofList, Literal.text_ofInteger]
  rfl

theorem toList_toString_neg (hn : 0 < n) :
    (toString (-n : Int)).toList = (Literal.ofInteger true n).text := by
  obtain ⟨k, rfl⟩ := Nat.exists_eq_add_one.mpr hn
  have htext : toString (-(k + 1 : Nat) : Int) = "-" ++ toString (k + 1) := rfl
  rw [htext, Nat.toString_eq_ofList_toDigits, String.toList_append, String.toList_ofList,
    String.toList_ofList, Literal.text_ofInteger]
  rfl

theorem spells_toString {i : Int} (h : Number.Readable (.integer i)) :
    Spells (toString i).toList (.integer i) := by
  obtain ⟨hmin, hmax⟩ := h
  obtain ⟨n, rfl | rfl⟩ := Int.eq_nat_or_neg i
  · have hn : n < 2 ^ 64 := by omega
    refine ⟨.ofInteger false n, (toList_toString_natCast n).symm, ?_⟩
    rw [Numeral.nearest?, Literal.integer?_ofInteger, if_neg Bool.false_ne_true, if_pos hn]
  · obtain rfl | hpos := Nat.eq_zero_or_pos n
    · exact ⟨.ofInteger false 0, (toList_toString_natCast 0).symm, by decide⟩
    · have hn : 0 < n ∧ n ≤ 2 ^ 63 := by omega
      refine ⟨.ofInteger true n, (toList_toString_neg hpos).symm, ?_⟩
      rw [Numeral.nearest?, Literal.integer?_ofInteger, if_pos rfl, if_pos hn]

theorem Numeral.written_of_integer? {n : Numeral} {i : Int} (h : n.integer? = some i) :
    n.written = ⟨i.natAbs, 0⟩ := by
  unfold integer? at h
  dsimp only at h
  split_ifs at h with hplain
  all_goals
    obtain rfl := Option.some.inj h
    rw [not_or, Option.not_isSome_iff_eq_none, Option.not_isSome_iff_eq_none] at hplain
    simp [written, power, hplain]

theorem Numeral.nearest?_eq_integer {n : Numeral} {i : Int} :
    n.nearest? = some (.integer i) ↔ n.integer? = some i := by
  rw [nearest?]
  cases n.integer? <;> simp

/-- No literal of an integer has fewer digits than the integer itself. -/
theorem significant_integer {i : Int} (hl : l.numeral.nearest? = some (.integer i))
    (hk : k.numeral.nearest? = some (.integer i)) :
    l.numeral.written.significant ≤ k.numeral.written.significant := by
  rw [Numeral.nearest?_eq_integer] at hl hk
  rw [Numeral.written_of_integer? hl, Numeral.written_of_integer? hk]

theorem Numeral.nearest?_eq_real {n : Numeral} :
    n.nearest? = some (.real negative x) ↔ n.integer? = none ∧ n.negative = negative ∧
      Binary.nearest? n.written.digits n.written.exp = some x := by
  rw [nearest?]
  cases n.integer? with
  | some i => simp
  | none => simp [and_comm]

/-- The text of a magnitude is a literal nearest to which the magnitude is, and of those one with
the fewest digits. -/
theorem exists_shortest_real (layout : Layout) (negative : Bool) (hx : x.Canonical) :
    ∃ l : Literal, l.text = (layout.render negative x).toList ∧
      l.numeral.nearest? = some (.real negative x) ∧
      ∀ k : Literal, k.numeral.nearest? = some (.real negative x) →
        l.numeral.written.significant ≤ k.numeral.written.significant := by
  obtain hm | hm := Nat.eq_zero_or_pos x.m
  · obtain ⟨l, htext, rfl, hpart, hvalue⟩ := writes_zero layout negative hm
    have hdigits : l.numeral.written.digits = 0 :=
      Nat.eq_zero_of_not_pos fun hpos => (hvalue ▸ digits_pos_iff.mp hpos).false
    refine ⟨l, htext, ?_, fun k _ => ?_⟩
    · rw [Numeral.nearest?_eq_real, hdigits, hx.eq_zero hm]
      exact ⟨Numeral.integer?_eq_none hpart, rfl, rfl⟩
    · rw [significant_of_zero hdigits]
      exact significant_pos _
  · obtain ⟨l, htext, rfl, hpart, hvalue⟩ := writes_render layout negative hm
    have hattracts : x.Attracts l.numeral.written.value := by
      rw [hvalue]
      exact attracts_shortest layout.tie hm
    refine ⟨l, htext, ?_, fun k hk => ?_⟩
    · rw [Numeral.nearest?_eq_real]
      exact ⟨Numeral.integer?_eq_none hpart, rfl,
        (Binary.nearest?_eq_some_iff hm).mpr ⟨hx, hattracts⟩⟩
    · obtain ⟨-, -, hnearest⟩ := Numeral.nearest?_eq_real.mp hk
      rw [significant_congr (digits_pos_iff.mpr (hattracts.pos hm)) hvalue]
      exact significant_shortest_le layout.tie hx hm
        ((Binary.nearest?_eq_some_iff hm).mp hnearest).2

/-- The text of a number is a literal nearest to which the number is, and of those one with the
fewest digits. -/
theorem Number.exists_shortest {x : Number} (h : x.Readable) :
    ∃ l : Literal, l.text = x.text.toList ∧ l.numeral.nearest? = some x ∧
      ∀ k : Literal, k.numeral.nearest? = some x →
        l.numeral.written.significant ≤ k.numeral.written.significant := by
  cases x with
  | integer i =>
    obtain ⟨l, htext, hl⟩ := spells_toString h
    exact ⟨l, htext, hl, fun k hk => significant_integer hl hk⟩
  | real negative x => exact exists_shortest_real Number.layout negative h

theorem spells_text {x : Number} (h : x.Readable) : Spells x.text.toList x :=
  let ⟨l, htext, hl, _⟩ := Number.exists_shortest h
  ⟨l, htext, hl⟩

/-- No text spells two numbers. -/
theorem Literal.numeral_eq (h : l.text = k.text) : l.numeral = k.numeral := by
  have hnil : Separated [] := by simp [Separated]
  have hl := l.read_text hnil
  rw [h, k.read_text hnil] at hl
  simpa using hl.symm

/-- An integer literal that stands for an integer is written as the integer is. -/
theorem Literal.text_of_integer? {i : Int} (h : l.numeral.integer? = some i) :
    (toString i).toList = l.text := by
  have hdigits := toDigits_digitsValue l.whole.digit l.whole.ne_nil l.leading
  unfold Numeral.integer? at h
  dsimp only at h
  split_ifs at h with hplain hnegative hrange hrange
  all_goals
    obtain rfl := Option.some.inj h
    rw [not_or, Option.not_isSome_iff_eq_none, Option.not_isSome_iff_eq_none] at hplain
    have htext : l.text =
        (ofInteger l.numeral.negative (digitsValue 10 l.numeral.whole)).text := by
      rw [text_ofInteger, hdigits, text, hplain.1, hplain.2]
      simp [fractionText, exponentText]
    rw [htext]
  · rw [hnegative]
    exact toList_toString_neg hrange.1
  · rw [Bool.eq_false_iff.mpr hnegative]
    exact toList_toString_natCast _

theorem mem_plainText (ds : List Char) (e : Int) : '.' ∈ plainText ds e := by
  unfold plainText
  dsimp only
  split_ifs <;> simp

/-- No magnitude is written with digits alone. -/
theorem mem_render (layout : Layout) (negative : Bool) (x : Binary) :
    '.' ∈ (layout.render negative x).toList ∨ 'e' ∈ (layout.render negative x).toList := by
  have hmagnitude : '.' ∈ layout.magnitude x ∨ 'e' ∈ layout.magnitude x := by
    unfold Layout.magnitude
    dsimp only
    split_ifs
    · exact .inl (by simp)
    · exact .inl (mem_plainText _ _)
    · exact .inr (by simp [exponentText])
  rw [Layout.render, String.toList_ofList]
  exact hmagnitude.imp (List.mem_append_right _) (List.mem_append_right _)

theorem Spells.unique {x y : Number} (h : Spells s x) (h' : Spells s y) : x = y := by
  obtain ⟨l, hl, hx⟩ := h
  obtain ⟨k, hk, hy⟩ := h'
  rw [Literal.numeral_eq (hl.trans hk.symm), hy] at hx
  exact (Option.some.inj hx).symm

end SchemaInterfaces.Json
