import Mathlib.Tactic.SplitIfs
import SchemaInterfaces.Proofs.Scanning

/-! Strings between double quotes that are read as they are written. Every escape, and every quote
more, makes the string shorter than its text, so that these are the strings without any. -/
namespace SchemaInterfaces.Toml

/-- A text of which every character stands for itself between double quotes. -/
def Verbatim (s : List Char) : Prop := ∀ c ∈ s, Quote.basic.Holds c

instance (q : Quote) (c : Char) : Decidable (q.Holds c) :=
  decidable_of_iff (c ≠ q.mark ∧ ¬ (q = .basic ∧ c = '\\') ∧ isPlain c = true)
    ⟨fun ⟨h₁, h₂, h₃⟩ => ⟨h₁, h₂, h₃⟩, fun h => ⟨h.not_mark, h.not_escape, h.plain⟩⟩

instance (s : List Char) : Decidable (Verbatim s) := List.decidableBAll _ s

namespace Scan

variable {state : Scan} {s acc : List Char} {isTripled : Bool}

/-- How many characters a string that is being read holds, quotes that may end it included. -/
def held : Scan → Nat
  | single _ s | escape _ s | hex _ s _ _ | fold s _ => s.length
  | tripled _ s run => s.length + run
  | _ => 0

/-- How many quotes end the string that is being read; none outside strings. -/
def closers : Scan → Nat
  | single _ _ | escape false _ | hex false _ _ _ => 1
  | tripled _ _ _ | fresh _ | escape true _ | hex true _ _ _ | fold _ _ => 3
  | _ => 0

/-- The first of the tokens is a string that, with `n` quotes more, has at most `m` characters, or
nothing that can be read. -/
def Ends (n m : Nat) : List Token → Prop
  | .text s _ :: _ => s.length + n ≤ m
  | .junk :: _ => True
  | _ => False

theorem Ends.mono {n m m' : Nat} {ts : List Token} (h : Ends n m ts) (hm : m ≤ m') :
    Ends n m' ts := by
  match ts with
  | .text s _ :: _ => exact Nat.le_trans (m := m) h hm
  | .junk :: _ => trivial

theorem Ends.append {n m : Nat} {ts : List Token} (h : Ends n m ts) (us : List Token) :
    Ends n m (ts ++ us) := by
  match ts with
  | .text s _ :: _ => exact h
  | .junk :: _ => trivial

/-- After one step in a string it goes on and has at most one character more, or it has ended. -/
def Advances (state : Scan) (reached : Scan × List Token) : Prop :=
  (reached.2 = [] ∧ closers reached.1 = closers state ∧ held reached.1 ≤ held state + 1) ∨
    Ends (closers state) (held state + 1) reached.2

theorem advances_tripled (q : Quote) (acc : List Char) (r : Nat) (c : Char) :
    Advances (tripled q acc r) (stepTripled q acc r c) := by
  unfold stepTripled
  split_ifs
  · exact .inl ⟨rfl, rfl, Nat.le_refl _⟩
  · cases hclosing : closing? q acc r with
    | none => exact .inr trivial
    | some t =>
      refine .inr ?_
      unfold closing? at hclosing
      split at hclosing
      · obtain rfl := Option.some.inj hclosing
        have hlength : (List.replicate (r - 3) q.mark ++ acc).reverse.length + 3 ≤
            acc.length + r + 1 := by
          simp only [List.length_reverse, List.length_append, List.length_replicate]
          omega
        exact hlength
      · contradiction
  · exact .inl ⟨rfl, rfl, by simp [held]; omega⟩
  · exact .inl ⟨rfl, rfl, by simp [held]; omega⟩
  · exact .inr trivial

theorem advances_single (q : Quote) (acc : List Char) (c : Char) :
    Advances (single q acc) (stepSingle q acc c) := by
  unfold stepSingle
  split_ifs
  · exact .inr (by simp [Ends, closers, held])
  · exact .inl ⟨rfl, rfl, by simp [held]⟩
  · exact .inl ⟨rfl, rfl, by simp [held]⟩
  · exact .inr trivial

/-- An escape that ends makes one character. -/
theorem advances_resume (hclosers : closers state = closers (escape isTripled acc))
    (hheld : held state = acc.length) (c : Char) :
    Advances state (resume isTripled (c :: acc), []) := by
  refine .inl ⟨rfl, ?_, ?_⟩
  · rw [hclosers]
    cases isTripled <;> rfl
  · rw [hheld]
    cases isTripled <;> exact Nat.le_refl _

theorem advances_step (h : closers state ≠ 0) (c : Char) : Advances state (state.step c) := by
  cases state with
  | single q acc => exact advances_single q acc c
  | tripled q acc r => exact advances_tripled q acc r c
  | fresh q =>
    simp only [step]
    split_ifs
    · exact .inl ⟨rfl, rfl, by simp [held]⟩
    · exact advances_tripled q [] 0 c
  | escape isTripled acc =>
    simp only [step]
    split_ifs
    · exact .inl ⟨rfl, by cases isTripled <;> rfl, by simp [held]⟩
    · exact .inl ⟨rfl, by cases isTripled <;> rfl, by simp [held]⟩
    · rename_i hline
      exact .inl ⟨rfl, by rw [hline.1]; rfl, by simp [held]⟩
    · rename_i hblank
      exact .inl ⟨rfl, by rw [hblank.1]; rfl, by simp [held]⟩
    · split
      · exact advances_resume rfl rfl _
      · exact .inr trivial
  | hex isTripled acc left value =>
    simp only [step]
    split
    · exact .inr trivial
    · split_ifs
      · exact .inl ⟨rfl, by cases isTripled <;> rfl, by simp [held]⟩
      · split
        · exact advances_resume (by cases isTripled <;> rfl) rfl _
        · exact .inr trivial
  | fold acc ended =>
    simp only [step]
    split_ifs
    · exact .inl ⟨rfl, rfl, by simp [held]⟩
    · exact .inl ⟨rfl, rfl, by simp [held]⟩
    · exact advances_tripled .basic acc 0 c
    · exact .inr trivial
  | _ => exact (h rfl).elim

/-- A string is read from a text that is longer than it by the quotes that end it, or more. -/
theorem ends_read (state : Scan) (h : closers state ≠ 0) (s : List Char) :
    Ends (closers state) (held state + s.length) (read state s) := by
  induction s generalizing state with
  | nil =>
    cases state with
    | tripled q acc r =>
      change Ends 3 _ [(closing? q acc r).getD .junk]
      unfold closing?
      split
      · have hlength : (List.replicate (r - 3) q.mark ++ acc).reverse.length + 3 ≤
            acc.length + r := by
          simp only [List.length_reverse, List.length_append, List.length_replicate]
          omega
        exact hlength
      · trivial
    | single | fresh | escape | hex | fold => trivial
    | _ => exact (h rfl).elim
  | cons c s ih =>
    rw [read]
    rcases advances_step h c with ⟨hnone, hclosers, hheld⟩ | hends
    · have hrest := ih (state.step c).1 (by rw [hclosers]; exact h)
      rw [hnone, List.nil_append, ← hclosers, List.length_cons]
      exact hrest.mono (by omega)
    · exact (hends.mono (by simp)).append _

theorem Ends.exists_text {n m : Nat} {ts : List Token} (h : Ends n m ts) (hjunk : .junk ∉ ts) :
    ∃ content isTripled more, ts = .text content isTripled :: more ∧ content.length + n ≤ m := by
  match ts with
  | .text content isTripled :: more => exact ⟨content, isTripled, more, rfl, h⟩
  | .junk :: _ => simp at hjunk

/-- A string whose quotes are still to come is shorter than what it is read from. -/
theorem exists_text_of_closers (h : closers state ≠ 0) (hjunk : .junk ∉ read state (s ++ ['"'])) :
    ∃ content isTripled more, read state (s ++ ['"']) = .text content isTripled :: more ∧
      content.length + closers state ≤ held state + (s.length + 1) := by
  simpa using (ends_read state h (s ++ ['"'])).exists_text hjunk

/-- An escape or a quote makes a string of one line shorter than its text for good. -/
theorem short_of_not_holds (hc : ¬ Quote.basic.Holds c)
    (hjunk : .junk ∉ read (single .basic acc) (c :: s ++ ['"'])) :
    ∃ content isTripled more,
      read (single .basic acc) (c :: s ++ ['"']) = .text content isTripled :: more ∧
        content.length < acc.length + (c :: s).length := by
  by_cases hquote : c = '"'
  · subst hquote
    exact ⟨acc.reverse, false, _, rfl, by simp⟩
  · by_cases hback : c = '\\'
    · subst hback
      have hstep : (single .basic acc).step '\\' = (escape false acc, []) := rfl
      rw [List.cons_append, read, hstep, List.nil_append] at hjunk ⊢
      obtain ⟨content, isTripled, more, hread, hlength⟩ :=
        exists_text_of_closers (by simp [closers]) hjunk
      refine ⟨content, isTripled, more, hread, ?_⟩
      simp only [closers, held] at hlength
      rw [List.length_cons]
      omega
    · refine absurd ?_ hjunk
      have hplain : ¬ isPlain c = true := fun hplain => hc ⟨hquote, by simp [hback], hplain⟩
      have hmark : c ≠ Quote.mark .basic := hquote
      rw [List.cons_append, read]
      simp [step, stepSingle, hmark, hback, hplain]

/-- In a string of one line, what is as long as its text stands for itself. -/
theorem verbatim_of_single (hjunk : .junk ∉ read (single .basic acc) (s ++ ['"'])) :
    ∃ content isTripled more,
      read (single .basic acc) (s ++ ['"']) = .text content isTripled :: more ∧
        (acc.length + s.length ≤ content.length → Verbatim s) := by
  induction s generalizing acc with
  | nil => exact ⟨acc.reverse, false, [], rfl, fun _ => by simp [Verbatim]⟩
  | cons c s ih =>
    by_cases hc : Quote.basic.Holds c
    · have hstep : (single .basic acc).step c = (single .basic (c :: acc), []) := by
        have hback : c ≠ '\\' := fun hback => hc.not_escape ⟨rfl, hback⟩
        simp [step, stepSingle, hc.not_mark, hback, hc.plain]
      rw [List.cons_append, read, hstep, List.nil_append] at hjunk ⊢
      obtain ⟨content, isTripled, more, hread, hverbatim⟩ := ih hjunk
      refine ⟨content, isTripled, more, hread, fun hlength => ?_⟩
      rw [List.length_cons] at hlength
      exact List.forall_mem_cons.mpr ⟨hc, hverbatim (by rw [List.length_cons]; omega)⟩
    · obtain ⟨content, isTripled, more, hread, hlength⟩ := short_of_not_holds hc hjunk
      exact ⟨content, isTripled, more, hread, fun h => (Nat.not_le.mpr hlength h).elim⟩

/-- Behind two opening quotes the string is empty unless a third one follows, and with it two more
are missing at the end. -/
theorem short_of_quote (hjunk : .junk ∉ read (opening .basic) ('"' :: s ++ ['"'])) :
    ∃ content isTripled more,
      read (opening .basic) ('"' :: s ++ ['"']) = .text content isTripled :: more ∧
        content.length ≤ s.length := by
  have hopened : read (opening .basic) ('"' :: s ++ ['"']) =
      read (opened .basic) (s ++ ['"']) := rfl
  rw [hopened] at hjunk ⊢
  cases s with
  | nil => exact absurd (by simp [read, step, Quote.mark, finish]) hjunk
  | cons d s =>
    by_cases hd : d = '"'
    · subst hd
      have hfresh : read (opened .basic) ('"' :: s ++ ['"']) =
          read (fresh .basic) (s ++ ['"']) := rfl
      rw [hfresh] at hjunk ⊢
      obtain ⟨content, isTripled, more, hread, hlength⟩ :=
        exists_text_of_closers (by simp [closers]) hjunk
      refine ⟨content, isTripled, more, hread, ?_⟩
      simp only [closers, held] at hlength
      rw [List.length_cons]
      omega
    · have hstep : (opened .basic).step d = startAfter (.text [] false) d := by
        have hmark : d ≠ Quote.mark .basic := hd
        simp [step, hmark]
      exact ⟨[], false, _, read_of_startAfter hstep, by simp⟩

/-- What is read from an opening quote up to the end of a text that ends in a quote: if it is as
long as the text between the quotes, that stands for itself. -/
theorem verbatim_of_opening (hjunk : .junk ∉ read (opening .basic) (s ++ ['"'])) :
    ∃ content isTripled more,
      read (opening .basic) (s ++ ['"']) = .text content isTripled :: more ∧
        (s.length ≤ content.length → Verbatim s) := by
  cases s with
  | nil => exact ⟨[], false, [], rfl, fun _ => by simp [Verbatim]⟩
  | cons c s =>
    by_cases hc : c = '"'
    · subst hc
      obtain ⟨content, isTripled, more, hread, hlength⟩ := short_of_quote hjunk
      refine ⟨content, isTripled, more, hread, fun h => ?_⟩
      rw [List.length_cons] at h
      omega
    · have hsingle : read (opening .basic) (c :: s ++ ['"']) =
          read (single .basic []) (c :: s ++ ['"']) := by
        rw [List.cons_append, read, read, step_opening hc]
      rw [hsingle] at hjunk ⊢
      simpa using verbatim_of_single hjunk

end Scan
end SchemaInterfaces.Toml
