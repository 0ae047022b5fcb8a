import Mathlib.Tactic.SplitIfs
import SchemaInterfaces.Proofs.Scanning
import SchemaInterfaces.Toml.Quoted

/-! Strings as they are written, scanned again: each of the five forms stands for its text. -/
namespace SchemaInterfaces.Toml
open Text

variable {x c : Char} {s body content acc rest : List Char} {run most r n : Nat} {q : Quote}
  {isTripled : Bool} {state : Scan}

theorem le_longestRunFrom (x : Char) (run most : Nat) (s : List Char) :
    run ≤ longestRunFrom x run most s ∧ most ≤ longestRunFrom x run most s := by
  induction s generalizing run most with
  | nil => exact ⟨Nat.le_max_left .., Nat.le_max_right ..⟩
  | cons c s ih =>
    rw [longestRunFrom]
    split
    · have hlater := ih (run + 1) most
      omega
    · have hlater := ih 0 (max run most)
      omega

/-- A text in which a character is found no times in a row does not have it. -/
theorem notMem_of_longestRunFrom (h : longestRunFrom x run most s = 0) : x ∉ s := by
  induction s generalizing run most with
  | nil => simp
  | cons c s ih =>
    rw [longestRunFrom] at h
    split at h
    · have hrun := (le_longestRunFrom x (run + 1) most s).1
      omega
    · rename_i hne
      rw [List.mem_cons, not_or]
      exact ⟨Ne.symm hne, ih h⟩

/-- A text that is written between apostrophes on one line. -/
theorem of_single_literal (h : Form.of s = .single .literal) :
    (∀ c ∈ s, isControl c = false) ∧ '\'' ∉ s ∧ '\n' ∉ s := by
  unfold Form.of at h
  dsimp only at h
  split_ifs at h with hcontrol _ hplain
  · cases h
  · exact ⟨by simpa using hcontrol, notMem_of_longestRunFrom hplain.1, by simpa using hplain.2⟩

/-- A text that is written between triple apostrophes. -/
theorem of_tripled_literal (h : Form.of s = .tripled .literal) :
    (∀ c ∈ s, isControl c = false) ∧ longestRun '\'' s ≤ 2 := by
  unfold Form.of at h
  dsimp only at h
  split_ifs at h with hcontrol _ _ _ hrun
  · cases h
  · exact ⟨by simpa using hcontrol, hrun⟩

namespace Scan

/-- A string that is being read between double quotes, with what has been read of it. -/
structure Inside (isTripled : Bool) (content : List Char) (state : Scan) : Prop where
  backslash : state.step '\\' = (escape isTripled content, [])
  other : ∀ c, c ≠ '"' → c ≠ '\\' → (isPlain c = true ∨ isTripled = true ∧ c = '\n') →
    state.step c = (resume isTripled (c :: content), [])

theorem inside_single (acc : List Char) : Inside false acc (single .basic acc) where
  backslash := rfl
  other c hquote hback hplain := by
    have hmark : c ≠ Quote.mark .basic := hquote
    have hplain : isPlain c = true := by simpa using hplain
    simp [step, stepSingle, hmark, hback, hplain, resume]

theorem inside_tripled (hr : r ≤ 2) (acc : List Char) :
    Inside true (List.replicate r '"' ++ acc) (tripled .basic acc r) where
  backslash := by
    have hopen : ¬ 3 ≤ r := by omega
    simp [step, stepTripled, Quote.mark, hopen]
  other c hquote hback hplain := by
    have hopen : ¬ 3 ≤ r := by omega
    have hplain : c = '\n' ∨ isPlain c = true := by simpa [or_comm] using hplain
    simp [step, stepTripled, Quote.mark, hopen, hquote, hback, hplain, resume]

theorem isPlain_of_not_control (hc : isControl c = false) (hne : c ≠ '\n') : isPlain c = true := by
  simpa [isControl, hne] using hc

theorem toNat_lt_of_control (hc : isControl c = true) : c.toNat < 128 := by
  simp only [isControl, isPlain, Bool.and_eq_true, Bool.not_eq_true', Bool.or_eq_false_iff,
    Bool.and_eq_false_iff, decide_eq_false_iff_not, bne_eq_false_iff_eq] at hc
  rcases hc.2.2 with h | rfl
  · omega
  · decide

/-- All characters without a shape are among the first ones. -/
@[elab_as_elim]
theorem forall_control {P : Char → Prop}
    (h : ∀ n < 128, isControl (Char.ofNat n) = true → P (Char.ofNat n))
    (hc : isControl c = true) : P c := by
  have hchar := h c.toNat (toNat_lt_of_control hc)
  rw [Char.ofNat_toNat] at hchar
  exact hchar hc

/-- The escape of a character without a shape ends in the two digits of its number. -/
theorem codeEscape_of_control (hc : isControl c = true) :
    ∃ a b, codeEscape c = ['\\', 'u', '0', '0', a, b] ∧ hexValue? a = some (c.toNat / 16) ∧
      hexValue? b = some (c.toNat % 16) := by
  have hdigits : ∀ n < 128, isControl (Char.ofNat n) = true →
      let c := Char.ofNat n
      let a := (Nat.digitChar (c.toNat / 16)).toUpper
      let b := (Nat.digitChar (c.toNat % 16)).toUpper
      codeEscape c = ['\\', 'u', '0', '0', a, b] ∧ hexValue? a = some (c.toNat / 16) ∧
        hexValue? b = some (c.toNat % 16) := by
    decide +kernel
  exact forall_control (fun n hn hc => ⟨_, _, hdigits n hn hc⟩) hc

theorem scans_unescape {d : Char} (h : Inside isTripled content state) (hu : d ≠ 'u') (hU : d ≠ 'U')
    (hfold : d ≠ '\n' ∧ d ≠ ' ' ∧ d ≠ '\t') (hd : unescape? d = some c) :
    Scans state ['\\', d] [] (resume isTripled (c :: content)) := by
  refine .cons h.backslash (scans_step ?_)
  simp [step, hu, hU, hfold, hd]

theorem scans_codeEscape (h : Inside isTripled content state) (hc : isControl c = true) :
    Scans state (codeEscape c) [] (resume isTripled (c :: content)) := by
  obtain ⟨a, b, hcode, ha, hb⟩ := codeEscape_of_control hc
  have hzero : hexValue? '0' = some 0 := by decide
  have hvalue : 16 * (c.toNat / 16) + c.toNat % 16 = c.toNat := Nat.div_add_mod ..
  have hscalar : scalar? c.toNat = some c := by
    have hvalid : c.toNat.isValidChar := c.valid
    simp [scalar?, hvalid]
  rw [hcode]
  have hletter : (escape isTripled content).step 'u' = (.hex isTripled content 4 0, []) := by
    simp [step]
  have hfirst : (hex isTripled content 4 0).step '0' = (.hex isTripled content 3 0, []) := by
    simp [step, hzero]
  have hsecond : (hex isTripled content 3 0).step '0' = (.hex isTripled content 2 0, []) := by
    simp [step, hzero]
  have hthird : (hex isTripled content 2 0).step a =
      (.hex isTripled content 1 (c.toNat / 16), []) := by
    simp [step, ha]
  refine .cons h.backslash (.cons hletter (.cons hfirst (.cons hsecond (.cons hthird ?_))))
  exact scans_step (by simp [step, hb, hvalue, hscalar])

/-- How a character is written: as it is, by an escape with a letter, or by one with its number. -/
theorem escapeChar_cases (isTripled : Bool) (c : Char) :
    (escapeChar isTripled c = [c] ∧ c ≠ '\\' ∧
      (isPlain c = true ∨ isTripled = true ∧ c = '\n')) ∨
    (∃ d ∈ ['b', 't', 'f', 'r', '\\', 'n'],
      escapeChar isTripled c = ['\\', d] ∧ unescape? d = some c) ∨
    escapeChar isTripled c = codeEscape c ∧ isControl c = true := by
  unfold escapeChar
  split_ifs with hb ht hf hr hback hline htripled hcontrol
  · exact .inr (.inl ⟨'b', by decide, rfl, hb ▸ rfl⟩)
  · exact .inr (.inl ⟨'t', by decide, rfl, ht ▸ rfl⟩)
  · exact .inr (.inl ⟨'f', by decide, rfl, hf ▸ rfl⟩)
  · exact .inr (.inl ⟨'r', by decide, rfl, hr ▸ rfl⟩)
  · exact .inr (.inl ⟨'\\', by decide, rfl, by rw [hback]; rfl⟩)
  · exact .inl ⟨by rw [hline], hback, .inr ⟨htripled, hline⟩⟩
  · exact .inr (.inl ⟨'n', by decide, rfl, hline ▸ rfl⟩)
  · exact .inr (.inr ⟨rfl, hcontrol⟩)
  · exact .inl ⟨rfl, hback, .inl (isPlain_of_not_control (by simpa using hcontrol) hline)⟩

/-- A character other than a double quote stands for itself, whatever it is written as. -/
theorem scans_escapeChar (h : Inside isTripled content state) (hc : c ≠ '"') :
    Scans state (escapeChar isTripled c) [] (resume isTripled (c :: content)) := by
  rcases escapeChar_cases isTripled c with ⟨hself, hback, hplain⟩ | ⟨d, hd, hescape, hletter⟩ |
    ⟨hcode, hcontrol⟩
  · rw [hself]
    exact scans_step (h.other c hc hback hplain)
  · have hletters : ∀ d ∈ ['b', 't', 'f', 'r', '\\', 'n'],
        d ≠ 'u' ∧ d ≠ 'U' ∧ d ≠ '\n' ∧ d ≠ ' ' ∧ d ≠ '\t' := by simp
    obtain ⟨hu, hU, hfold⟩ := hletters d hd
    rw [hescape]
    exact scans_unescape h hu hU hfold hletter
  · rw [hcode]
    exact scans_codeEscape h hcontrol

theorem scans_escapedQuote (h : Inside isTripled content state) :
    Scans state ['\\', '"'] [] (resume isTripled ('"' :: content)) :=
  scans_unescape h (by decide) (by decide) (by decide) (by simp [unescape?])

/-- A text with escapes on one line. -/
theorem scans_escapeFrom_single (acc s : List Char) :
    Scans (single .basic acc) (escapeFrom false run s) [] (single .basic (s.reverse ++ acc)) := by
  induction s generalizing acc run with
  | nil => exact scans_nil
  | cons c s ih =>
    have hrest : ∀ run, Scans (resume false (c :: acc)) (escapeFrom false run s) []
        (single .basic ((c :: s).reverse ++ acc)) := by
      intro run
      simpa [resume] using @ih run (c :: acc)
    rw [escapeFrom]
    split
    · rename_i hc
      exact (scans_escapeChar (inside_single acc) hc).append (hrest 0)
    · rename_i hc
      obtain rfl := Decidable.not_not.mp hc
      exact (scans_escapedQuote (inside_single acc)).append (hrest 0)

/-- In triple quotes the text read so far may end in up to two quotes. -/
theorem scans_escapeFrom_tripled (hr : r ≤ 2) (acc s : List Char) :
    ∃ acc' r', r' ≤ 2 ∧
      List.replicate r' '"' ++ acc' = s.reverse ++ (List.replicate r '"' ++ acc) ∧
      Scans (tripled .basic acc r) (escapeFrom true r s) [] (tripled .basic acc' r') := by
  induction s generalizing acc r with
  | nil => exact ⟨acc, r, hr, rfl, scans_nil⟩
  | cons c s ih =>
    have hinside := inside_tripled hr acc
    have hresume : ∀ content, resume true content = tripled .basic content 0 := fun _ => rfl
    rw [escapeFrom]
    split
    · rename_i hc
      obtain ⟨acc', r', hr', hcontent, hscans⟩ :=
        ih (r := 0) (by omega) (c :: (List.replicate r '"' ++ acc))
      refine ⟨acc', r', hr', by simpa using hcontent, ?_⟩
      exact (scans_escapeChar hinside hc).append (hresume _ ▸ hscans)
    · rename_i hc
      obtain rfl := Decidable.not_not.mp hc
      split
      · rename_i hrun
        obtain ⟨acc', r', hr', hcontent, hscans⟩ := ih (r := r + 1) (by omega) acc
        refine ⟨acc', r', hr', ?_, .cons (by simp [step, stepTripled, Quote.mark]) hscans⟩
        simpa [List.replicate_succ] using hcontent
      · obtain ⟨acc', r', hr', hcontent, hscans⟩ :=
          ih (r := 0) (by omega) ('"' :: (List.replicate r '"' ++ acc))
        refine ⟨acc', r', hr', by simpa using hcontent, ?_⟩
        exact (scans_escapedQuote hinside).append (hresume _ ▸ hscans)

/-- A text in triple quotes as it is, with at most two of those quotes in a row. -/
theorem scans_tripled_literal (hs : ∀ c ∈ s, isControl c = false)
    (hrun : longestRunFrom '\'' r most s ≤ 2) (acc : List Char) :
    ∃ acc' r', r' ≤ 2 ∧
      List.replicate r' '\'' ++ acc' = s.reverse ++ (List.replicate r '\'' ++ acc) ∧
      Scans (tripled .literal acc r) s [] (tripled .literal acc' r') := by
  induction s generalizing acc r most with
  | nil => exact ⟨acc, r, Nat.le_trans (le_longestRunFrom '\'' r most []).1 hrun, rfl, scans_nil⟩
  | cons c s ih =>
    rw [List.forall_mem_cons] at hs
    have hopen : ¬ 3 ≤ r := by
      have hle := (le_longestRunFrom '\'' r most (c :: s)).1
      omega
    rw [longestRunFrom] at hrun
    split at hrun
    · rename_i hc
      subst hc
      obtain ⟨acc', r', hr', hcontent, hscans⟩ := ih hs.2 hrun acc
      refine ⟨acc', r', hr', ?_, .cons (by simp [step, stepTripled, Quote.mark]) hscans⟩
      simpa [List.replicate_succ] using hcontent
    · rename_i hc
      obtain ⟨acc', r', hr', hcontent, hscans⟩ :=
        ih hs.2 hrun (c :: (List.replicate r '\'' ++ acc))
      have hplain : c = '\n' ∨ isPlain c = true := by
        by_cases hline : c = '\n'
        · exact .inl hline
        · exact .inr (isPlain_of_not_control hs.1 hline)
      refine ⟨acc', r', hr', by simpa using hcontent, .cons ?_ hscans⟩
      simp [step, stepTripled, Quote.mark, hc, hopen, hplain]

/-- The first character behind three quotes, if it does not end the line. -/
theorem read_fresh (hc : c ≠ '\n') : read (fresh q) (c :: s) = read (tripled q [] 0) (c :: s) := by
  have hstep : (fresh q).step c = (tripled q [] 0).step c := by simp [step, hc]
  rw [read, read, hstep]

theorem read_enclose_single (h : Scans (single q []) body [] (single q s.reverse))
    (hbody : body.head? ≠ some q.mark) (hnil : body = [] → s = []) (hc : c ≠ q.mark) :
    read between (enclose q false body ++ c :: rest) =
      .text s false :: read between (c :: rest) := by
  have hstart : between.step q.mark = (opening q, []) := by cases q <;> rfl
  have htext : enclose q false body ++ c :: rest = q.mark :: (body ++ q.mark :: c :: rest) := by
    simp [enclose]
  rw [htext, read, hstart, List.nil_append,
    read_opening h hbody (by simpa using hnil) (by simpa using hc), List.reverse_reverse]

theorem read_enclose_tripled (h : Scans (tripled q [] 0) body [] (tripled q acc r)) (hr : r ≤ 2)
    (hcontent : List.replicate r q.mark ++ acc = s.reverse) (hc : c ≠ q.mark) :
    read between (enclose q true body ++ c :: rest) =
      .text s true :: read between (c :: rest) := by
  have hstart : ∀ more,
      read between (q.mark :: q.mark :: q.mark :: more) = read (fresh q) more := by
    intro more
    cases q <;> rfl
  have hmark : q.mark ≠ '\n' := by cases q <;> decide
  -- The line end that a text of more than one line begins with does not count.
  have hfresh : read (fresh q) ((if body.contains '\n' then ['\n'] else []) ++
      (body ++ List.replicate 3 q.mark ++ c :: rest)) =
        read (tripled q [] 0) (body ++ (List.replicate 3 q.mark ++ c :: rest)) := by
    rw [List.append_assoc]
    by_cases hline : '\n' ∈ body
    · simp [hline, read, step]
    · cases body with
      | nil => simpa [List.replicate_succ] using read_fresh hmark
      | cons d body =>
        have hd : d ≠ '\n' := fun hd => hline (by simp [hd])
        simpa [hline] using read_fresh hd
  have hend : ∀ more, read (tripled q acc r) (List.replicate 3 q.mark ++ more) =
      read (tripled q acc (r + 3)) more := by
    intro more
    simp [List.replicate_succ, read, step, stepTripled]
  have hclose : (tripled q acc (r + 3)).step c = startAfter (.text s true) c := by
    have hfive : r + 3 ≤ 5 := by omega
    simp [step, stepTripled, hc, closing?, hfive, hcontent]
  have htext : enclose q true body ++ c :: rest = q.mark :: q.mark :: q.mark ::
      ((if body.contains '\n' then ['\n'] else []) ++
        (body ++ List.replicate 3 q.mark ++ c :: rest)) := by
    simp [enclose, List.replicate_succ]
  rw [htext, hstart, hfresh, h, List.nil_append, hend]
  exact read_of_startAfter hclose

/-- A character is written as it is, or as an escape, which has no dollar sign. -/
theorem escapeChar_self_or_escape (isTripled : Bool) (c : Char) :
    (escapeChar isTripled c = [c] ∧ c ≠ '\r') ∨
      ∃ more, escapeChar isTripled c = '\\' :: more ∧ '$' ∉ more ∧ '\r' ∉ more := by
  rcases escapeChar_cases isTripled c with ⟨hself, -, hplain⟩ | ⟨d, hd, hescape, -⟩ |
    ⟨hcode, hcontrol⟩
  · refine .inl ⟨hself, ?_⟩
    rintro rfl
    simp [isPlain] at hplain
  · have hletters : ∀ d ∈ ['b', 't', 'f', 'r', '\\', 'n'], '$' ∉ [d] ∧ '\r' ∉ [d] := by simp
    exact .inr ⟨[d], hescape, hletters d hd⟩
  · obtain ⟨a, b, hdigits, ha, hb⟩ := codeEscape_of_control hcontrol
    have hdigit : ∀ d, hexValue? d = none → d ≠ a ∧ d ≠ b := by
      intro d hd
      constructor <;> rintro rfl <;> simp_all
    refine .inr ⟨['u', '0', '0', a, b], hcode.trans hdigits, ?_, ?_⟩
    · simp [hdigit '$' (by decide)]
    · simp [hdigit '\r' (by decide)]

theorem exists_escapeChar (isTripled : Bool) (hc : c ≠ '"') :
    ∃ d more, escapeChar isTripled c = d :: more ∧ d ≠ '"' := by
  rcases escapeChar_self_or_escape isTripled c with ⟨h, -⟩ | ⟨more, h, -⟩
  · exact ⟨c, [], h, hc⟩
  · exact ⟨'\\', more, h, by decide⟩

theorem head?_escapeFrom_single (run : Nat) (s : List Char) :
    (escapeFrom false run s).head? ≠ some '"' := by
  cases s with
  | nil => simp [escapeFrom]
  | cons c s =>
    rw [escapeFrom]
    split
    · rename_i hc
      obtain ⟨d, more, hescape, hd⟩ := exists_escapeChar false hc
      simpa [hescape] using hd
    · simp

theorem escapeFrom_eq_nil (h : escapeFrom isTripled run s = []) : s = [] := by
  cases s with
  | nil => rfl
  | cons c s =>
    rw [escapeFrom] at h
    split_ifs at h with hc
    obtain ⟨d, more, hescape, -⟩ := exists_escapeChar isTripled hc
    simp [hescape] at h

theorem read_escaped (isTripled : Bool) (hc : c ≠ '"') (s : List Char) :
    read between (enclose .basic isTripled (escapeFrom isTripled 0 s) ++ c :: rest) =
      .text s isTripled :: read between (c :: rest) := by
  cases isTripled with
  | false =>
    refine read_enclose_single ?_ (head?_escapeFrom_single 0 s) escapeFrom_eq_nil hc
    simpa using scans_escapeFrom_single [] s
  | true =>
    obtain ⟨acc, r, hr, hcontent, hscans⟩ := scans_escapeFrom_tripled (Nat.zero_le 2) [] s
    exact read_enclose_tripled hscans hr (by simpa [Quote.mark] using hcontent) hc

/-- A written string is read as its text, in front of anything but a quote. -/
theorem read_quoted (s : List Char) : ∃ isTripled, ∀ c rest, c ≠ '"' → c ≠ '\'' →
    read between (quoted s ++ c :: rest) = .text s isTripled :: read between (c :: rest) := by
  unfold quoted
  cases hform : Form.of s with
  | escaped isTripled =>
    refine ⟨isTripled, fun c rest hbasic _ => ?_⟩
    cases isTripled <;> exact read_escaped _ hbasic s
  | single q =>
    refine ⟨false, fun c rest hbasic hliteral => ?_⟩
    cases q with
    | basic => exact read_escaped false hbasic s
    | literal =>
      obtain ⟨hcontrol, hmark, hline⟩ := of_single_literal hform
      have hholds : ∀ c ∈ s, Quote.literal.Holds c := by
        intro c hc
        refine ⟨?_, by simp, isPlain_of_not_control (hcontrol c hc) ?_⟩
        · rintro rfl
          exact hmark hc
        · rintro rfl
          exact hline hc
      refine read_enclose_single (by simpa using scans_single hholds []) ?_ id hliteral
      intro hhead
      exact hmark (List.mem_of_mem_head? hhead)
  | tripled q =>
    refine ⟨true, fun c rest hbasic hliteral => ?_⟩
    cases q with
    | basic => exact read_escaped true hbasic s
    | literal =>
      obtain ⟨hcontrol, hrun⟩ := of_tripled_literal hform
      obtain ⟨acc, r, hr, hcontent, hscans⟩ := scans_tripled_literal hcontrol hrun []
      exact read_enclose_tripled hscans hr (by simpa [Quote.mark] using hcontent) hliteral

end Scan
end SchemaInterfaces.Toml
