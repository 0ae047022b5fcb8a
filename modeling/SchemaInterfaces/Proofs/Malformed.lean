import SchemaInterfaces.Proofs.QuotedText
import SchemaInterfaces.Proofs.Statements

/-! Texts that are no TOML. What stops the scanner leaves a token that belongs to no statement, and
every control character stops it. -/
namespace SchemaInterfaces.Toml
open Text

variable {state : Scan} {c d : Char} {s : List Char} {g : Growth} {ts : List Token}

theorem ne_of_control (hc : isControl c = true) (hd : isControl d = false) : c ≠ d := by
  rintro rfl
  simp [hd] at hc

/-- A control character belongs to no word, number or escape. -/
theorem outside_of_control (hc : isControl c = true) : isWordPart c = false ∧ isDigit c = false ∧
    hexValue? c = none ∧ unescape? c = none := by
  have hall : ∀ n < 128, isControl (Char.ofNat n) = true →
      isWordPart (Char.ofNat n) = false ∧ isDigit (Char.ofNat n) = false ∧
        hexValue? (Char.ofNat n) = none ∧ unescape? (Char.ofNat n) = none := by
    decide +kernel
  exact Scan.forall_control hall hc

namespace Scan

theorem start_of_control (hc : isControl c = true) : start c = (stuck, [.junk]) := by
  unfold start
  split
  all_goals first | exact absurd hc (by decide) | simp [(outside_of_control hc).1]

/-- Nothing is scanned behind a control character. -/
theorem step_control (hc : isControl c = true) (state : Scan) : (state.step c).1 = stuck := by
  obtain ⟨hword, hdigit, hhex, hescape⟩ := outside_of_control hc
  have hstart := start_of_control hc
  have hplain : isPlain c = false := by
    rw [isControl, Bool.and_eq_true, Bool.not_eq_true'] at hc
    exact hc.2
  have hmark : ∀ q : Quote, c ≠ q.mark := by
    intro q
    cases q <;> exact ne_of_control hc (by decide)
  have hback : c ≠ '\\' := ne_of_control hc (by decide)
  have hline : c ≠ '\n' := ne_of_control hc (by decide)
  have hspace : c ≠ ' ' := ne_of_control hc (by decide)
  have htab : c ≠ '\t' := ne_of_control hc (by decide)
  have hu : c ≠ 'u' := ne_of_control hc (by decide)
  have hU : c ≠ 'U' := ne_of_control hc (by decide)
  cases state with
  | tripled q s run =>
    simp only [step, stepTripled, hmark q, if_false, startAfter, hstart, hback, and_false, hline,
      hplain]
    split
    · split <;> rfl
    · simp
  | fresh q => simp [step, stepTripled, hmark q, hback, hline, hplain]
  | fold s ended =>
    cases ended <;> simp [step, stepTripled, hmark .basic, hback, hline, hplain, hspace, htab]
  | _ => simp [step, stepSingle, startAfter, *]

theorem junk_of_start (h : (start c).1 = stuck) : .junk ∈ (start c).2 := by
  revert h
  unfold start
  split
  all_goals first | exact fun h => absurd h (by decide) | skip
  split <;> simp

theorem junk_of_stepTripled {q : Quote} {r : Nat} (h : (stepTripled q s r c).1 = stuck) :
    .junk ∈ (stepTripled q s r c).2 := by
  revert h
  unfold stepTripled
  split_ifs
  · simp
  · split
    · exact fun h => List.mem_cons_of_mem _ (junk_of_start h)
    · simp
  all_goals simp

/-- Where the scanner stops, it says so. -/
theorem junk_of_step (hstate : state ≠ stuck) (h : (state.step c).1 = stuck) :
    .junk ∈ (state.step c).2 := by
  revert h
  have hresume : ∀ isTripled content, resume isTripled content ≠ stuck := by
    intro isTripled content
    cases isTripled <;> simp [resume]
  cases state with
  | stuck => exact (hstate rfl).elim
  | between => exact junk_of_start
  | tripled q s r => exact junk_of_stepTripled
  | word s =>
    simp only [step, startAfter]
    split_ifs
    · simp
    · simp
    · exact fun h => List.mem_cons_of_mem _ (junk_of_start h)
  | afterDate date =>
    simp only [step]
    split_ifs
    · simp
    · exact fun h => List.mem_cons_of_mem _ (List.mem_cons_of_mem _ (junk_of_start h))
  | comment =>
    simp only [step]
    split_ifs <;> simp
  | opening q =>
    simp only [step, stepSingle]
    split_ifs <;> simp
  | opened q =>
    simp only [step, startAfter]
    split_ifs
    · simp
    · exact fun h => List.mem_cons_of_mem _ (junk_of_start h)
  | fresh q =>
    simp only [step]
    split_ifs
    · simp
    · exact junk_of_stepTripled
  | single q s =>
    simp only [step, stepSingle]
    split_ifs <;> simp
  | escape isTripled s =>
    simp only [step]
    split_ifs
    · simp
    · simp
    · simp
    · simp
    · split
      · exact fun h => (hresume _ _ h).elim
      · simp
  | hex isTripled s left value =>
    simp only [step]
    split
    · simp
    · split_ifs
      · simp
      · split
        · exact fun h => (hresume _ _ h).elim
        · simp
  | fold s ended =>
    simp only [step]
    split_ifs
    · simp
    · simp
    · exact junk_of_stepTripled
    · simp

/-- A text with a control character in it holds what is no token. -/
theorem junk_of_control (hc : isControl c = true) (hstate : state ≠ stuck) (h : c ∈ s) :
    .junk ∈ read state s := by
  induction s generalizing state with
  | nil => simp at h
  | cons d s ih =>
    rw [read, List.mem_append]
    by_cases hstuck : (state.step d).1 = stuck
    · exact .inl (junk_of_step hstate hstuck)
    · rcases List.mem_cons.mp h with rfl | h
      · exact (hstuck (step_control hc state)).elim
      · exact .inr (ih hstuck h)

end Scan

theorem Growth.step_junk (g : Growth) : g.step .junk = none := by
  cases g with
  | value frames => cases frames <;> rfl
  | separator frames =>
    match frames with
    | [] => rfl
    | .array _ :: _ => rfl
    | .setting _ :: _ => rfl
    | .table _ _ :: _ => rfl
  | innerKey parts settings outer => cases parts <;> cases settings <;> rfl
  | _ => rfl

theorem Growth.run_of_junk (h : .junk ∈ ts) (g : Growth) : g.run ts = none := by
  induction ts generalizing g with
  | nil => simp at h
  | cons t ts ih =>
    rw [run_cons]
    rcases List.mem_cons.mp h with rfl | h
    · rw [step_junk, Option.bind_none]
    · cases g.step t with
      | none => rfl
      | some reached => rw [Option.bind_some, ih h, Option.map_none]

theorem mem_unifyLineEnds (hc : c ≠ '\r') (h : c ∈ s) : c ∈ unifyLineEnds s := by
  fun_induction unifyLineEnds s with
  | case1 rest ih =>
    rw [List.mem_cons, List.mem_cons] at h
    exact List.mem_cons.mpr ((h.resolve_left hc).imp_right ih)
  | case2 d rest _ ih => exact List.mem_cons.mpr ((List.mem_cons.mp h).imp_right ih)
  | case3 => exact h

/-- A text with a control character in it is not well formed. -/
theorem statements?_of_control {s : String} (hc : isControl c = true) (hreturn : c ≠ '\r')
    (h : c ∈ s.toList) : statements? s = none := by
  have hmark : c ∈ dropMark s.toList := by
    have hne : c ≠ '\ufeff' := ne_of_control hc (by decide)
    unfold dropMark
    split
    · simp_all
    · exact h
  have hjunk := Scan.junk_of_control hc (by simp : Scan.between ≠ .stuck)
    (mem_unifyLineEnds hreturn hmark)
  rw [statements?, tokens, Scan.run_eq]
  exact Growth.run_of_junk hjunk .line

end SchemaInterfaces.Toml
