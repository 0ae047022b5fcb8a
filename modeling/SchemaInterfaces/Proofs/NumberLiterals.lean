import SchemaInterfaces.Json.Token

/-! Numbers as they are spelled in a text. What is spelled is scanned as one token, whatever comes
behind it. -/
namespace SchemaInterfaces.Json
open Text

/-- One digit or more. -/
structure IsDigits (ds : List Char) : Prop where
  ne_nil : ds ≠ []
  digit : ∀ c ∈ ds, isDigit c = true

/-- A number in a text. The exponent may be marked by either case of the letter, and one that is not
negative may have a sign all the same. -/
structure Literal where
  numeral : Numeral
  mark : Char
  plus : Bool
  whole : IsDigits numeral.whole
  leading : numeral.whole.head? = some '0' → numeral.whole = ['0']
  fraction : ∀ ds ∈ numeral.fraction, IsDigits ds
  exponent : ∀ e ∈ numeral.exponent, IsDigits e.2
  mark_eq : mark = 'e' ∨ mark = 'E'

namespace Literal

def signText (negative : Bool) : List Char := if negative then ['-'] else []

def fractionText : Option (List Char) → List Char
  | none => []
  | some ds => '.' :: ds

def exponentSign (negative plus : Bool) : List Char :=
  if negative then ['-'] else if plus then ['+'] else []

def exponentText (mark : Char) (plus : Bool) : Option (Bool × List Char) → List Char
  | none => []
  | some e => mark :: (exponentSign e.1 plus ++ e.2)

/-- How the number is spelled. -/
def text (l : Literal) : List Char :=
  signText l.numeral.negative ++ l.numeral.whole ++ fractionText l.numeral.fraction ++
    exponentText l.mark l.plus l.numeral.exponent

end Literal

/-- A text that a number may stand in front of. -/
def Separated (rest : List Char) : Prop :=
  ∀ c ∈ rest.head?, c ∈ [' ', '\t', '\n', '\r', ',', ']', '\x7d']

theorem digit_cases {c : Char} (h : isDigit c = true) :
    c ∈ ['0', '1', '2', '3', '4', '5', '6', '7', '8', '9'] := by
  obtain ⟨hlow, hhigh⟩ : 48 ≤ c.toNat ∧ c.toNat ≤ 57 := by
    rw [isDigit, Bool.and_eq_true, decide_eq_true_iff, decide_eq_true_iff] at h
    exact h
  have hall : ∀ n < 58, 48 ≤ n →
      Char.ofNat n ∈ ['0', '1', '2', '3', '4', '5', '6', '7', '8', '9'] := by decide
  exact Char.ofNat_toNat c ▸ hall c.toNat (by omega) hlow

namespace Scan

variable {p : NumberPart} {n : Numeral} {ds rest whole : List Char} {c : Char} {negative : Bool}
  {fraction : Option (List Char)} {exponent : Option (Bool × List Char)}

/-- The tokens of a text from a state on. -/
def read (state : Scan) : List Char → List Token
  | [] => state.finish
  | c :: rest => (state.step c).2 ++ read (state.step c).1 rest

theorem run_eq (state : Scan) (found : List Token) (s : List Char) :
    run state found s = found.reverse ++ read state s := by
  induction s generalizing state found with
  | nil => simp [run, read]
  | cons c s ih =>
    have hrun : run state found (c :: s) =
        run (state.step c).1 ((state.step c).2.reverse ++ found) s := rfl
    rw [hrun, ih, read]
    simp

theorem read_next {p' : NumberPart} (h : p.next? c = some p') :
    read (number p n) (c :: rest) = read (number p' (n.extend p' c)) rest := by
  simp [read, step, h]

/-- Characters that go on with one part of a number. -/
theorem read_part (h : ∀ c ∈ ds, p.next? c = some p) :
    read (number p n) (ds ++ rest) =
      read (number p (ds.foldl (fun n c => n.extend p c) n)) rest := by
  induction ds generalizing n with
  | nil => rfl
  | cons c ds ih =>
    rw [List.forall_mem_cons] at h
    rw [List.cons_append, read_next h.1, ih h.2, List.foldl_cons]

/-- Characters of one part come to stand before those read of it so far. -/
theorem foldl_extend (part : List Char → Numeral)
    (hpart : ∀ acc c, (part acc).extend p c = part (c :: acc)) (ds acc : List Char) :
    ds.foldl (fun n c => n.extend p c) (part acc) = part (ds.reverse ++ acc) := by
  induction ds generalizing acc with
  | nil => rfl
  | cons c ds ih =>
    rw [List.foldl_cons, hpart, ih, List.reverse_cons, List.append_assoc, List.singleton_append]

theorem foldl_whole (ds : List Char) (n : Numeral) :
    ds.foldl (fun n c => n.extend .whole c) n = { n with whole := ds.reverse ++ n.whole } :=
  foldl_extend (fun acc => { n with whole := acc }) (fun _ _ => rfl) ds n.whole

theorem foldl_fraction (ds acc : List Char) :
    ds.foldl (fun (n : Numeral) c => n.extend .fraction c) ⟨negative, whole, some acc, none⟩ =
      ⟨negative, whole, some (ds.reverse ++ acc), none⟩ :=
  foldl_extend (fun acc => ⟨negative, whole, some acc, none⟩) (fun _ _ => rfl) ds acc

theorem foldl_exponent (minus : Bool) (ds acc : List Char) :
    ds.foldl (fun (n : Numeral) c => n.extend .exponent c)
        ⟨negative, whole, fraction, some (minus, acc)⟩ =
      ⟨negative, whole, fraction, some (minus, ds.reverse ++ acc)⟩ :=
  foldl_extend (fun acc => ⟨negative, whole, fraction, some (minus, acc)⟩) (fun _ _ => rfl) ds acc

/-- The first character of a number without a sign. -/
theorem step_digit (h : isDigit c = true) :
    between.step c = (number .minus (.start false)).step c := by
  have hc := digit_cases h
  simp only [List.mem_cons, List.not_mem_nil, or_false] at hc
  rcases hc with rfl | rfl | rfl | rfl | rfl | rfl | rfl | rfl | rfl | rfl <;> rfl

theorem read_sign (h : isDigit c = true) :
    read between (Literal.signText negative ++ c :: rest) =
      read (number .minus (.start negative)) (c :: rest) := by
  cases negative with
  | true => rfl
  | false => simp only [Literal.signText, Bool.false_eq_true, if_false, List.nil_append, read,
      step_digit h]

/-- The digits before the point. -/
theorem read_whole (h : IsDigits ds) (hlead : ds.head? = some '0' → ds = ['0']) :
    ∃ p, (p = .zero ∨ p = .whole) ∧ ∀ rest,
      read between (Literal.signText negative ++ ds ++ rest) =
        read (number p ⟨negative, ds.reverse, none, none⟩) rest := by
  obtain ⟨hne, hdigits⟩ := h
  cases ds with
  | nil => contradiction
  | cons c ds =>
    rw [List.forall_mem_cons] at hdigits
    by_cases hc : c = '0'
    · subst hc
      obtain rfl : ds = [] := by simpa using hlead rfl
      refine ⟨.zero, .inl rfl, fun rest => ?_⟩
      rw [List.append_assoc, List.singleton_append, read_sign rfl]
      exact read_next rfl
    · refine ⟨.whole, .inr rfl, fun rest => ?_⟩
      have hfirst : NumberPart.minus.next? c = some .whole := by
        simp [NumberPart.next?, hc, hdigits.1]
      have hmore : ∀ d ∈ ds, NumberPart.whole.next? d = some .whole := fun d hd => by
        simp [NumberPart.next?, hdigits.2 d hd]
      rw [List.append_assoc, List.cons_append, read_sign hdigits.1, read_next hfirst,
        read_part hmore, foldl_whole]
      simp [Numeral.extend, Numeral.start]

/-- The point and the digits behind it. -/
theorem read_fraction (hp : p = .zero ∨ p = .whole) (h : ∀ ds ∈ fraction, IsDigits ds) :
    ∃ p', (p' = .zero ∨ p' = .whole ∨ p' = .fraction) ∧ ∀ rest,
      read (number p ⟨negative, whole, none, none⟩) (Literal.fractionText fraction ++ rest) =
        read (number p' ⟨negative, whole, fraction.map List.reverse, none⟩) rest := by
  cases fraction with
  | none => exact ⟨p, hp.elim .inl fun h => .inr (.inl h), fun rest => rfl⟩
  | some ds =>
    obtain ⟨hne, hdigits⟩ := h ds rfl
    cases ds with
    | nil => contradiction
    | cons c ds =>
      rw [List.forall_mem_cons] at hdigits
      refine ⟨.fraction, .inr (.inr rfl), fun rest => ?_⟩
      have hpoint : p.next? '.' = some .point := by rcases hp with rfl | rfl <;> rfl
      have hfirst : NumberPart.point.next? c = some .fraction := by
        simp [NumberPart.next?, hdigits.1]
      have hmore : ∀ d ∈ ds, NumberPart.fraction.next? d = some .fraction := fun d hd => by
        simp [NumberPart.next?, hdigits.2 d hd]
      have hdigit : read (number p ⟨negative, whole, none, none⟩) ('.' :: c :: (ds ++ rest)) =
          read (number .fraction ⟨negative, whole, some [c], none⟩) (ds ++ rest) :=
        (read_next hpoint).trans (read_next hfirst)
      rw [Literal.fractionText, List.cons_append, List.cons_append, hdigit, read_part hmore,
        foldl_fraction]
      simp

/-- The sign of an exponent and its first digit. -/
theorem read_exponentSign (minus plus : Bool) (h : isDigit c = true) :
    read (number .mark ⟨negative, whole, fraction, some (false, [])⟩)
        (Literal.exponentSign minus plus ++ c :: rest) =
      read (number .exponent ⟨negative, whole, fraction, some (minus, [c])⟩) rest := by
  have hsign : ∀ d, d = '+' ∨ d = '-' → NumberPart.mark.next? d = some .sign := fun d hd => by
    simp [NumberPart.next?, hd]
  have hunsigned : ¬ (c = '+' ∨ c = '-') := by
    rintro (rfl | rfl) <;> simp [isDigit] at h
  have hdigit : NumberPart.mark.next? c = some .exponent ∧
      NumberPart.sign.next? c = some .exponent := by
    simp only [NumberPart.next?, if_neg hunsigned, h, if_true, and_self]
  cases minus with
  | true => exact (read_next (hsign '-' (.inr rfl))).trans (read_next hdigit.2)
  | false =>
    cases plus with
    | true => exact (read_next (hsign '+' (.inl rfl))).trans (read_next hdigit.2)
    | false => exact read_next hdigit.1

/-- The exponent with its mark and its sign. -/
theorem read_exponent (hp : p = .zero ∨ p = .whole ∨ p = .fraction) {mark : Char}
    (hmark : mark = 'e' ∨ mark = 'E') (plus : Bool) (h : ∀ e ∈ exponent, IsDigits e.2) :
    ∃ p', p'.final = true ∧ ∀ rest,
      read (number p ⟨negative, whole, fraction, none⟩)
          (Literal.exponentText mark plus exponent ++ rest) =
        read (number p' ⟨negative, whole, fraction, exponent.map fun e => (e.1, e.2.reverse)⟩)
          rest := by
  cases exponent with
  | none =>
    refine ⟨p, ?_, fun rest => rfl⟩
    rcases hp with rfl | rfl | rfl <;> rfl
  | some e =>
    obtain ⟨hne, hdigits⟩ := h e rfl
    cases hds : e.2 with
    | nil => contradiction
    | cons c ds =>
      rw [hds, List.forall_mem_cons] at hdigits
      refine ⟨.exponent, rfl, fun rest => ?_⟩
      have hmarked : p.next? mark = some .mark := by
        rcases hp with rfl | rfl | rfl <;> rcases hmark with rfl | rfl <;> rfl
      have hmore : ∀ d ∈ ds, NumberPart.exponent.next? d = some .exponent := fun d hd => by
        simp [NumberPart.next?, hdigits.2 d hd]
      rw [Literal.exponentText, List.cons_append, read_next hmarked, hds, List.append_assoc,
        List.cons_append, Numeral.extend, read_exponentSign e.1 plus hdigits.1, read_part hmore,
        foldl_exponent]
      simp [hds]

/-- A number ends in front of a separator. -/
theorem read_end (hp : p.final = true) (hrest : Separated rest) :
    read (number p n) rest = .number n.inOrder :: read between rest := by
  cases rest with
  | nil => simp [read, finish, hp]
  | cons c rest =>
    have hc := hrest c rfl
    have hstop : p.next? c = none ∧ isDigit c = false := by
      simp only [List.mem_cons, List.not_mem_nil, or_false] at hc
      rcases hc with rfl | rfl | rfl | rfl | rfl | rfl | rfl <;> cases p <;> revert hp <;> decide
    simp [read, step, hstop, hp]

end Scan

/-- A number is one token. -/
theorem Literal.read_text (l : Literal) {rest : List Char} (hrest : Separated rest) :
    Scan.read .between (l.text ++ rest) = .number l.numeral :: Scan.read .between rest := by
  obtain ⟨p, hp, hwhole⟩ := Scan.read_whole l.whole l.leading
  obtain ⟨p, hp, hfraction⟩ := Scan.read_fraction hp l.fraction
  obtain ⟨p, hp, hexponent⟩ := Scan.read_exponent hp l.mark_eq l.plus l.exponent
  rw [text, List.append_assoc, List.append_assoc, hwhole, hfraction, hexponent,
    Scan.read_end hp hrest]
  simp [Numeral.inOrder, Function.comp_def]

end SchemaInterfaces.Json
