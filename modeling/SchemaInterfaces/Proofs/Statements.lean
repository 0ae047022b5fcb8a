import SchemaInterfaces.Proofs.Scanning
import SchemaInterfaces.Toml.Document

/-! Lines of TOML and the statements that they make, one line after the other. -/
namespace SchemaInterfaces.Toml
open Text Scan

namespace Growth

/-- From where the reader stands, tokens complete these statements and lead it further, whatever
comes behind them. -/
def Yields (g : Growth) (ts : List Token) (sts : List Statement) (next : Growth) : Prop :=
  ∀ rest, run g (ts ++ rest) = (run next rest).map (sts ++ ·)

variable {g next last : Growth} {ts us : List Token} {t : Token} {sts more : List Statement}
  {k : Key} {v : Node} {s : List Char}

theorem run_cons (g : Growth) (t : Token) (ts : List Token) : run g (t :: ts) =
    (g.step t).bind fun reached => (run reached.1 ts).map (reached.2 ++ ·) := by
  rw [run]
  cases g.step t with
  | none => rfl
  | some reached =>
    rw [Option.bind_some]
    change (run reached.1 ts).bind (fun sts => some (reached.2 ++ sts)) = _
    cases run reached.1 ts <;> rfl

theorem yields_nil : Yields g [] [] g := by
  intro rest
  simp

theorem yields_step (h : g.step t = some (next, sts)) : Yields g [t] sts next := by
  intro rest
  rw [List.singleton_append, run_cons, h, Option.bind_some]

theorem Yields.append (h : Yields g ts sts next) (h' : Yields next us more last) :
    Yields g (ts ++ us) (sts ++ more) last := by
  intro rest
  rw [List.append_assoc, h, h', Option.map_map]
  congr 1
  funext later
  simp

theorem Yields.cons (h : g.step t = some (next, [])) (h' : Yields next ts sts last) :
    Yields g (t :: ts) sts last := (yields_step h).append h'

/-- What is read as statements is read so up to any place in it. -/
theorem exists_yields (h : run g (ts ++ us) = some sts) :
    ∃ next done later, Yields g ts done next ∧ run next us = some later ∧ sts = done ++ later := by
  induction ts generalizing g sts with
  | nil => exact ⟨g, [], sts, yields_nil, h, rfl⟩
  | cons t ts ih =>
    rw [List.cons_append, run_cons, Option.bind_eq_some_iff] at h
    obtain ⟨⟨first, begun⟩, hstep, h⟩ := h
    obtain ⟨rest, hrest, rfl⟩ := Option.map_eq_some_iff.mp h
    obtain ⟨next, done, later, hyields, hlater, rfl⟩ := ih hrest
    exact ⟨next, begun ++ done, later, (yields_step hstep).append hyields, hlater, by simp⟩

theorem yields_text (k : Key) (s : List Char) (isTripled : Bool) :
    Yields (value [.setting k]) [.text s isTripled] [.setting k (.text s)] ended :=
  yields_step rfl

end Growth

variable {s u rest name value : List Char} {c : Char} {key : String} {v : Node}
  {sts more : List Statement}

/-! Keys without quotes. -/

/-- A key that is written as it is. -/
structure IsBareKey (name : List Char) : Prop where
  nonempty : name ≠ []
  bare : ∀ c ∈ name, isBare c = true
  no_date : isDate name = false

instance (name : List Char) : Decidable (IsBareKey name) :=
  have : Decidable (∀ c ∈ name, isBare c = true) := List.decidableBAll _ name
  decidable_of_iff (name ≠ [] ∧ (∀ c ∈ name, isBare c = true) ∧ isDate name = false)
    ⟨fun ⟨h₁, h₂, h₃⟩ => ⟨h₁, h₂, h₃⟩, fun h => ⟨h.nonempty, h.bare, h.no_date⟩⟩

theorem isWordPart_of_isBare (h : isBare c = true) : isWordPart c = true := by
  simp only [isBare, Bool.or_eq_true, beq_iff_eq] at h
  rcases h with (h | rfl) | rfl
  · simp [isWordPart, h]
  · decide
  · decide

theorem start_of_isWordPart (h : isWordPart c = true) : start c = (.word [c], []) := by
  unfold start
  split
  all_goals first | exact absurd h (by decide) | simp [h]

theorem scans_word (h : ∀ c ∈ s, isWordPart c = true) (acc : List Char) :
    Scans (.word acc) s [] (.word (s.reverse ++ acc)) := by
  induction s generalizing acc with
  | nil => exact scans_nil
  | cons c s ih =>
    rw [List.forall_mem_cons] at h
    have hstep : (Scan.word acc).step c = (.word (c :: acc), []) := by simp [Scan.step, h.1]
    refine .cons hstep ?_
    simpa using ih h.2 (c :: acc)

/-- A key ends before what cannot belong to it. -/
theorem read_bareKey (h : IsBareKey name) (hc : isWordPart c = false) :
    read .between (name ++ c :: rest) = .word name :: read .between (c :: rest) := by
  obtain ⟨hne, hbare, hdate⟩ := h
  cases name with
  | nil => exact (hne rfl).elim
  | cons d name =>
    have hparts : ∀ e ∈ d :: name, isWordPart e = true := fun e he =>
      isWordPart_of_isBare (hbare e he)
    rw [List.forall_mem_cons] at hparts
    have hfirst : Scan.between.step d = (.word [d], []) := start_of_isWordPart hparts.1
    have hword : Scans .between (d :: name) [] (.word (d :: name).reverse) := by
      simpa using Scans.cons hfirst (scans_word hparts.2 [d])
    have hend : (Scan.word (d :: name).reverse).step c = startAfter (.word (d :: name)) c := by
      simp only [Scan.step, List.reverse_reverse, hc, hdate]
      simp
    rw [hword, List.nil_append, read_of_startAfter hend]

theorem keyParts?_bareKey (h : IsBareKey name) :
    keyParts? (.word name) = some [.name (String.ofList name)] := by
  have hpoint : ∀ c ∈ name, (c == '.') = false := by
    intro c hc
    rw [beq_eq_false_iff_ne]
    rintro rfl
    exact absurd (h.bare '.' hc) (by decide)
  have hbare : name.all isBare = true := List.all_eq_true.mpr h.bare
  simp [keyParts?, wordParts?, splitBy_of_none _ hpoint, hbare, h.nonempty]

/-- The key of a line, up to where its value begins. -/
theorem yields_bareKey (h : IsBareKey name) : Growth.Yields .line [.word name] []
    (.key [.name (String.ofList name)]) := by
  refine Growth.yields_step ?_
  have hkey : Growth.line.step (.word name) =
      (keyParts? (.word name)).bind fun parts => some (.key parts.reverse, []) := rfl
  rw [hkey, keyParts?_bareKey h]
  rfl

theorem yields_equals (name : String) :
    Growth.Yields (.key [.name name]) [.equals] [] (.value [.setting ⟨[], name⟩]) := by
  refine Growth.yields_step ?_
  have hkey : keyOf? [.name name] = some ⟨[], name⟩ := by simp [keyOf?, joinKey?, depthLimit]
  change (keyOf? [.name name]).bind (fun k => some (Growth.value [.setting k], [])) = _
  rw [hkey]
  rfl

/-! Whole lines. -/

/-- Lines that make these statements. -/
def Says (s : List Char) (sts : List Statement) : Prop :=
  ∃ ts, Scans .between s ts .between ∧ Growth.Yields .line ts sts .line

theorem Says.append (h : Says s sts) (h' : Says u more) : Says (s ++ u) (sts ++ more) := by
  obtain ⟨ts, hscans, hyields⟩ := h
  obtain ⟨us, hscans', hyields'⟩ := h'
  exact ⟨ts ++ us, hscans.append hscans', hyields.append hyields'⟩

theorem says_newline : Says ['\n'] [] :=
  ⟨[.newline], scans_step rfl, Growth.yields_step rfl⟩

/-- A text that is a value wherever a line ends behind it. -/
def Writes (value : List Char) (v : Node) : Prop :=
  ∃ ts, (∀ rest, read .between (value ++ '\n' :: rest) = ts ++ read .between ('\n' :: rest)) ∧
    ∀ k, Growth.Yields (.value [.setting k]) ts [.setting k v] .ended

theorem says_setting (hname : IsBareKey name) (h : Writes value v) :
    Says (name ++ [' ', '=', ' '] ++ value ++ ['\n'])
      [.setting ⟨[], String.ofList name⟩ v] := by
  obtain ⟨ts, hscans, hyields⟩ := h
  refine ⟨[.word name, .blank, .equals, .blank] ++ ts ++ [.newline], ?_, ?_⟩
  · intro rest
    have hvalue := hscans rest
    simp only [List.append_assoc, List.singleton_append]
    change read .between (name ++ ' ' :: _) = _
    rw [read_bareKey hname (by decide)]
    change _ :: .blank :: .equals :: .blank :: read .between (value ++ '\n' :: rest) = _
    rw [hvalue]
    simp [Scan.read, Scan.step, start]
  · have hkey := (yields_bareKey hname).append (Growth.Yields.cons (t := .blank) rfl
      ((yields_equals (String.ofList name)).append (Growth.yields_step (t := .blank) rfl)))
    exact (hkey.append (hyields _)).append (Growth.yields_step rfl)

theorem says_heading (name : List Char) (hname : IsBareKey name) :
    Says ('[' :: name ++ [']', '\n']) [.table ⟨[], String.ofList name⟩] := by
  refine ⟨[.openBracket, .word name, .closeBracket, .newline], ?_, ?_⟩
  · intro rest
    simp only [List.append_assoc, List.cons_append, List.nil_append]
    change .openBracket :: read .between (name ++ ']' :: _) = _
    rw [read_bareKey hname (by decide)]
    rfl
  · have hkey : keyOf? [.name (String.ofList name)] = some ⟨[], String.ofList name⟩ := by
      simp [keyOf?, joinKey?, depthLimit]
    have hheader : Growth.bracket.step (.word name) =
        some (.header false [.name (String.ofList name)], []) := by
      change (keyParts? (.word name)).bind
        (fun parts => some (Growth.header false parts.reverse, [])) = _
      rw [keyParts?_bareKey hname]
      rfl
    have hclose : (Growth.header false [.name (String.ofList name)]).step .closeBracket =
        some (.ended, [.table ⟨[], String.ofList name⟩]) := by
      change (keyOf? [.name (String.ofList name)]).bind
        (fun k => some (Growth.ended, [Statement.table k])) = _
      rw [hkey]
      rfl
    exact .cons (t := .openBracket) rfl (.cons hheader ((Growth.yields_step hclose).append
      (Growth.yields_step rfl)))

theorem unifyLineEnds_cons (h : c ≠ '\r') : unifyLineEnds (c :: s) = c :: unifyLineEnds s := by
  rw [unifyLineEnds]
  intro rest hc
  exact (h hc).elim

theorem unifyLineEnds_of_notMem (h : '\r' ∉ s) : unifyLineEnds s = s := by
  induction s with
  | nil => rfl
  | cons c s ih =>
    rw [List.mem_cons, not_or] at h
    rw [unifyLineEnds_cons (Ne.symm h.1), ih h.2]

theorem dropMark_of_ne (h : s.head? ≠ some '\ufeff') : dropMark s = s := by
  unfold dropMark
  split
  · exact (h rfl).elim
  · rfl

/-- A text is read as its lines are. -/
theorem statements?_of_says (h : Says s sts) (hreturn : '\r' ∉ s)
    (hmark : s.head? ≠ some '\ufeff') : statements? (String.ofList s) = some sts := by
  obtain ⟨ts, hscans, hyields⟩ := h
  have htokens : tokens (String.ofList s) = ts := by
    rw [tokens, String.toList_ofList, dropMark_of_ne hmark, unifyLineEnds_of_notMem hreturn, run_eq,
      hscans.read_eq]
    simp [finish]
  have hrun := hyields []
  rw [List.append_nil] at hrun
  rw [statements?, htokens, hrun]
  simp [Growth.run, Growth.mayEnd]

end SchemaInterfaces.Toml
