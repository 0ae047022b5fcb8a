import SchemaInterfaces.Toml.Token

/-! Texts of TOML scanned piece by piece: what tokens a piece ends, and where it leaves the
scanner. -/
namespace SchemaInterfaces.Toml

/-- A character that stands for itself in a string of one line. -/
structure Quote.Holds (q : Quote) (c : Char) : Prop where
  not_mark : c ≠ q.mark
  not_escape : ¬ (q = .basic ∧ c = '\\')
  plain : isPlain c = true

namespace Scan

/-- The tokens of a text from a state on. -/
def read (state : Scan) : List Char → List Token
  | [] => state.finish
  | c :: rest => (state.step c).2 ++ read (state.step c).1 rest

/-- From one state, a piece of text ends these tokens and leads to another state, whatever comes
behind it. -/
def Scans (state : Scan) (s : List Char) (ts : List Token) (next : Scan) : Prop :=
  ∀ rest, read state (s ++ rest) = ts ++ read next rest

variable {state next last : Scan} {s u rest acc content : List Char} {ts us : List Token}
  {c : Char} {q : Quote} {t : Token}

theorem run_eq (state : Scan) (found : List Token) (s : List Char) :
    run state found s = found.reverse ++ read state s := by
  induction s generalizing state found with
  | nil => simp [run, read]
  | cons c s ih =>
    have hrun : run state found (c :: s) =
        run (state.step c).1 ((state.step c).2.reverse ++ found) s := rfl
    rw [hrun, ih, read]
    simp

theorem scans_nil : Scans state [] [] state := fun _ => rfl

theorem Scans.append (h : Scans state s ts next) (h' : Scans next u us last) :
    Scans state (s ++ u) (ts ++ us) last := by
  intro rest
  rw [List.append_assoc, h, h', List.append_assoc]

theorem Scans.read_eq (h : Scans state s ts next) : read state s = ts ++ next.finish := by
  simpa [read] using h []

theorem scans_step (h : state.step c = (next, ts)) : Scans state [c] ts next := by
  intro rest
  rw [List.singleton_append, read, h]

theorem Scans.cons (h : state.step c = (next, [])) (h' : Scans next s ts last) :
    Scans state (c :: s) ts last := (scans_step h).append h'

/-- A token that ends before a character. -/
theorem read_of_startAfter (h : state.step c = startAfter t c) :
    read state (c :: rest) = t :: read between (c :: rest) := by
  rw [read, h]
  rfl

/-! Strings of one line. -/

theorem scans_single (h : ∀ c ∈ s, q.Holds c) (acc : List Char) :
    Scans (single q acc) s [] (single q (s.reverse ++ acc)) := by
  induction s generalizing acc with
  | nil => exact scans_nil
  | cons c s ih =>
    rw [List.forall_mem_cons] at h
    have hstep : (single q acc).step c = (single q (c :: acc), []) := by
      simp [step, stepSingle, h.1.not_mark, h.1.not_escape, h.1.plain]
    refine Scans.cons hstep ?_
    simpa using ih h.2 (c :: acc)

/-- The first character of a string that is not empty. -/
theorem step_opening (hc : c ≠ q.mark) : (opening q).step c = (single q []).step c := by
  simp [step, hc]

/-- A string of one line between its quotes, in front of anything but a third quote. -/
theorem read_opening (h : Scans (single q []) s [] (single q content)) (hs : s.head? ≠ some q.mark)
    (hnil : s = [] → content = []) (hrest : rest.head? ≠ some q.mark) :
    read (opening q) (s ++ q.mark :: rest) = .text content.reverse false :: read between rest := by
  cases s with
  | nil =>
    rw [hnil rfl]
    have hopened : (opening q).step q.mark = (opened q, []) := by simp [step]
    rw [List.nil_append, read, hopened, List.nil_append]
    cases rest with
    | nil => rfl
    | cons c rest =>
      have hc : c ≠ q.mark := by simpa using hrest
      exact read_of_startAfter (by simp [step, hc])
  | cons d s =>
    have hd : d ≠ q.mark := by simpa using hs
    have hmark : (single q content).step q.mark = (between, [.text content.reverse false]) := by
      simp [step, stepSingle]
    rw [List.cons_append, read, step_opening hd, ← read, ← List.cons_append, h, List.nil_append,
      read, hmark]
    rfl

/-- A string in which every character stands for itself. -/
theorem read_opening_of_holds (h : ∀ c ∈ s, q.Holds c) (hrest : rest.head? ≠ some q.mark) :
    read (opening q) (s ++ q.mark :: rest) = .text s false :: read between rest := by
  have hs : s.head? ≠ some q.mark := fun hhead =>
    (h q.mark (List.mem_of_mem_head? hhead)).not_mark rfl
  have hscans := scans_single h []
  rw [List.append_nil] at hscans
  rw [read_opening hscans hs (by rintro rfl; rfl) hrest, List.reverse_reverse]

end Scan
end SchemaInterfaces.Toml
