import SchemaInterfaces.Proofs.Malformed

/-! Texts of whole lines. What is well formed and ends in a line end is read the same in front of
anything else, since a line end closes whatever may be closed there. -/
namespace SchemaInterfaces.Toml
open Scan

variable {state next : Scan} {s u : List Char} {c : Char} {g reached : Growth} {ts : List Token}
  {sts : List Statement}

/-- As long as nothing has stopped it, the scanner can go on. -/
theorem exists_scans_of_not_junk (hstate : state ≠ stuck) (h : .junk ∉ read state (s ++ u)) :
    ∃ ts next, Scans state s ts next ∧ next ≠ stuck := by
  induction s generalizing state with
  | nil => exact ⟨[], state, scans_nil, hstate⟩
  | cons c s ih =>
    rw [List.cons_append, Scan.read, List.mem_append, not_or] at h
    have hnext : (state.step c).1 ≠ stuck := fun hstuck => h.1 (junk_of_step hstate hstuck)
    obtain ⟨ts, next, hscans, hne⟩ := ih hnext h.2
    exact ⟨_, next, (scans_step rfl).append hscans, hne⟩

/-- A line end ends what is being scanned, or the text must not end there. -/
theorem step_newline (hstate : state ≠ stuck)
    (h : .junk ∉ (state.step '\n').2 ++ (state.step '\n').1.finish) :
    ∃ ts, state.step '\n' = (between, ts ++ [.newline]) := by
  have hstart : start '\n' = (between, [.newline]) := rfl
  cases state with
  | stuck => exact (hstate rfl).elim
  | between => exact ⟨[], rfl⟩
  | word s => exact ⟨[.word s.reverse], by simp [step, isWordPart, startAfter, hstart]⟩
  | afterDate date => exact ⟨[.word date.reverse, .blank], by simp [step, Text.isDigit, hstart]⟩
  | comment => exact ⟨[], rfl⟩
  | opened q => exact ⟨[.text [] false], by cases q <;> rfl⟩
  | tripled q s r =>
    have hmark : '\n' ≠ q.mark := by cases q <;> decide
    by_cases hr : 3 ≤ r
    · simp only [step, stepTripled, hmark, if_false, hr, if_true, startAfter, hstart] at h ⊢
      split at h
      · rename_i t _
        exact ⟨[t], rfl⟩
      · simp at h
    · simp [step, stepTripled, hmark, hr, finish, closing?] at h
  | opening q => cases q <;> simp [step, stepSingle, Quote.mark, isPlain] at h
  | fresh q => cases q <;> simp [step, finish, closing?] at h
  | single q s => cases q <;> simp [step, stepSingle, Quote.mark, isPlain] at h
  | escape isTripled s => cases isTripled <;> simp [step, unescape?, finish] at h
  | hex isTripled s left value => simp [step, Text.hexValue?] at h
  | fold s ended => simp [step, finish] at h

/-- A statement ends at the end of its line. -/
theorem growth_newline (h : g.step .newline = some (reached, sts)) (hend : reached.mayEnd = true) :
    reached = .line ∧ sts = [] := by
  have hopen : ∀ {g : Growth} (isOpen : Bool),
      (if isOpen then some (g, ([] : List Statement)) else none) = some (reached, sts) →
        g = reached := by
    intro g isOpen h
    split at h
    · exact (Prod.mk.inj (Option.some.inj h)).1
    · contradiction
  cases g with
  | line | ended =>
    obtain ⟨rfl, rfl⟩ := Prod.mk.inj (Option.some.inj h)
    exact ⟨rfl, rfl⟩
  | value frames =>
    obtain rfl : .value frames = reached := hopen (Growth.inArray frames) (by
      cases frames <;> exact h)
    contradiction
  | separator frames =>
    obtain rfl : .separator frames = reached := hopen (Growth.inArray frames) (by
      cases frames <;> exact h)
    contradiction
  | closing k => simp [Growth.step] at h
  | _ => simp [Growth.step, keyParts?] at h

/-- Whole lines that are well formed say what they are read as, whatever comes behind them. -/
theorem says_of_run (h : Growth.run .line (read between (s ++ ['\n'])) = some sts) :
    Says (s ++ ['\n']) sts := by
  have hjunk : .junk ∉ read between (s ++ ['\n']) := fun hjunk => by
    rw [Growth.run_of_junk hjunk] at h
    contradiction
  obtain ⟨ts, state, hscans, hstate⟩ := exists_scans_of_not_junk (by simp) hjunk
  have hread : read between (s ++ ['\n']) =
      ts ++ ((state.step '\n').2 ++ (state.step '\n').1.finish) := by
    rw [hscans]
    rfl
  rw [hread, List.mem_append, not_or] at hjunk
  obtain ⟨us, hnewline⟩ := step_newline hstate hjunk.2
  have hall : Scans between (s ++ ['\n']) (ts ++ us ++ [.newline]) between := by
    rw [List.append_assoc]
    exact hscans.append (scans_step hnewline)
  rw [hall.read_eq, finish, List.append_nil] at h
  obtain ⟨g, done, later, hyields, hlater, rfl⟩ := Growth.exists_yields h
  rw [Growth.run_cons, Option.bind_eq_some_iff] at hlater
  obtain ⟨⟨reached, begun⟩, hstep, hlater⟩ := hlater
  have hend : reached.mayEnd = true := by
    cases hend : reached.mayEnd with
    | true => rfl
    | false => simp [Growth.run, hend] at hlater
  obtain ⟨rfl, rfl⟩ := growth_newline hstep hend
  have hnil : later = [] := by simpa [Growth.run, hend] using hlater.symm
  rw [hnil]
  exact ⟨_, hall, hyields.append (Growth.yields_step hstep)⟩

/-! The text as it is before it is scanned. -/

/-- Line ends are made one in two parts of a text alike, unless one stands across. -/
theorem unifyLineEnds_append (h : s.getLast? ≠ some '\r' ∨ u.head? ≠ some '\n') :
    unifyLineEnds (s ++ u) = unifyLineEnds s ++ unifyLineEnds u := by
  have hbehind : ∀ {d : Char} {rest : List Char},
      ((d :: rest).getLast? ≠ some '\r' ∨ u.head? ≠ some '\n') →
        (rest.getLast? ≠ some '\r' ∨ u.head? ≠ some '\n') := by
    intro d rest h
    cases rest with
    | nil => exact .inl (by simp)
    | cons e rest => simpa using h
  fun_induction unifyLineEnds s with
  | case1 rest ih =>
    change '\n' :: unifyLineEnds (rest ++ u) = _
    rw [ih (hbehind (hbehind h))]
    rfl
  | case2 d rest hd ih =>
    have hnext : unifyLineEnds (d :: (rest ++ u)) = d :: unifyLineEnds (rest ++ u) := by
      refine unifyLineEnds.eq_2 d (rest ++ u) ?_
      intro rest' hreturn hline
      subst hreturn
      cases rest with
      | nil => simp_all
      | cons e rest => exact hd rest rfl (by simp_all)
    rw [List.cons_append, hnext, ih (hbehind h)]
    rfl
  | case3 => rfl

theorem exists_unifyLineEnds_concat (s : List Char) :
    ∃ t, unifyLineEnds (s ++ ['\n']) = t ++ ['\n'] := by
  rcases List.eq_nil_or_concat s with rfl | ⟨t, c, rfl⟩
  · exact ⟨[], rfl⟩
  · by_cases hc : c = '\r'
    · subst hc
      refine ⟨unifyLineEnds t, ?_⟩
      rw [List.concat_eq_append, List.append_assoc, unifyLineEnds_append (.inr (by simp))]
      rfl
    · refine ⟨unifyLineEnds (t ++ [c]), ?_⟩
      rw [List.concat_eq_append, unifyLineEnds_append (.inl (by simpa using hc))]
      rfl

theorem dropMark_append (h : s ≠ []) (u : List Char) : dropMark (s ++ u) = dropMark s ++ u := by
  obtain ⟨c, s, rfl⟩ := List.exists_cons_of_ne_nil h
  by_cases hc : c = '\ufeff'
  · subst hc
    rfl
  · rw [dropMark_of_ne (by simpa using hc), List.cons_append, dropMark_of_ne (by simpa using hc),
      List.cons_append]

/-- What the scanner is given. -/
def prepared (s : List Char) : List Char := unifyLineEnds (dropMark s)

theorem statements?_eq (s : List Char) :
    statements? (String.ofList s) = Growth.run .line (read between (prepared s)) := by
  rw [statements?, tokens, String.toList_ofList, run_eq]
  rfl

theorem exists_prepared_concat (s : List Char) : ∃ t, prepared (s ++ ['\n']) = t ++ ['\n'] := by
  rcases List.eq_nil_or_concat s with rfl | ⟨t, c, rfl⟩
  · exact ⟨[], rfl⟩
  · rw [prepared, dropMark_append (by simp)]
    exact exists_unifyLineEnds_concat _

/-- Lines behind others are prepared alone. -/
theorem prepared_append (hs : s ≠ []) (h : u.head? ≠ some '\n') :
    prepared (s ++ u) = prepared s ++ unifyLineEnds u := by
  rw [prepared, dropMark_append hs, unifyLineEnds_append (.inr h)]
  rfl

/-- Whole lines that are well formed say what they are read as. -/
theorem says_of_statements? (h : statements? (String.ofList (s ++ ['\n'])) = some sts) :
    Says (prepared (s ++ ['\n'])) sts := by
  obtain ⟨t, ht⟩ := exists_prepared_concat s
  rw [statements?_eq, ht] at h
  rw [ht]
  exact says_of_run h

end SchemaInterfaces.Toml
