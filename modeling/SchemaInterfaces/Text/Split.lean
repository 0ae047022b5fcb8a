/-! Taking a text apart at separators. -/

namespace SchemaInterfaces.Text

theorem beq_eq_false_of_notMem {c : Char} {s : List Char} (h : c ∉ s) :
    ∀ d ∈ s, (d == c) = false := by
  intro d hd
  rw [beq_eq_false_iff_ne]
  rintro rfl
  exact h hd

/-- The longest pieces between characters that satisfy `sep`, empty ones included. -/
def splitBy (sep : Char → Bool) : List Char → List (List Char)
  | [] => [[]]
  | c :: rest =>
    match splitBy sep rest with
    | [] => []
    | piece :: pieces => if sep c then [] :: piece :: pieces else (c :: piece) :: pieces

theorem splitBy_ne_nil (sep : Char → Bool) (s : List Char) : splitBy sep s ≠ [] := by
  induction s with
  | nil => simp [splitBy]
  | cons c s ih =>
    unfold splitBy
    split
    · contradiction
    · split <;> simp

/-- A separator parts the pieces before it from those after it. -/
theorem splitBy_append (sep : Char → Bool) (s : List Char) {c : Char} (hc : sep c = true)
    (rest : List Char) : splitBy sep (s ++ c :: rest) = splitBy sep s ++ splitBy sep rest := by
  induction s with
  | nil =>
    simp only [List.nil_append, splitBy, hc]
    cases h : splitBy sep rest with
    | nil => exact (splitBy_ne_nil sep rest h).elim
    | cons piece pieces => rfl
  | cons d s ih =>
    rw [List.cons_append, splitBy, ih, splitBy]
    cases h : splitBy sep s with
    | nil => exact (splitBy_ne_nil sep s h).elim
    | cons piece pieces => cases sep d <;> rfl

theorem splitBy_of_none (sep : Char → Bool) {s : List Char} (h : ∀ c ∈ s, sep c = false) :
    splitBy sep s = [s] := by
  induction s with
  | nil => rfl
  | cons d s ih => simp [splitBy, h d (by simp), ih fun e he => h e (by simp [he])]

theorem splitBy_eq_splitOnP (sep : Char → Bool) (s : List Char) :
    splitBy sep s = s.splitOnP sep := by
  induction s with
  | nil => rfl
  | cons c s ih =>
    rw [splitBy, List.splitOnP_cons_eq_if_modifyHead, ← ih]
    cases h : splitBy sep s with
    | nil => exact (splitBy_ne_nil sep s h).elim
    | cons piece pieces => rfl

theorem length_splitBy (sep : Char → Bool) (s : List Char) :
    (splitBy sep s).length = s.countP sep + 1 := by
  induction s with
  | nil => rfl
  | cons c s ih =>
    rw [splitBy, List.countP_cons]
    cases h : splitBy sep s with
    | nil => exact (splitBy_ne_nil sep s h).elim
    | cons piece pieces =>
      rw [h, List.length_cons] at ih
      cases sep c <;> simp <;> omega

/-- No piece holds a separator. -/
theorem sep_eq_false_of_mem_splitBy {sep : Char → Bool} {s piece : List Char}
    (h : piece ∈ splitBy sep s) : ∀ c ∈ piece, sep c = false := by
  induction s generalizing piece with
  | nil =>
    obtain rfl : piece = [] := by simpa [splitBy] using h
    simp
  | cons d s ih =>
    rw [splitBy] at h
    cases hs : splitBy sep s with
    | nil => exact (splitBy_ne_nil sep s hs).elim
    | cons first pieces =>
      simp only [hs] at h ih
      cases hd : sep d with
      | true =>
        rw [hd, if_pos rfl] at h
        rcases List.mem_cons.mp h with rfl | h
        · simp
        · exact ih h
      | false =>
        rw [hd, if_neg (by simp)] at h
        rcases List.mem_cons.mp h with rfl | h
        · intro c hc
          rcases List.mem_cons.mp hc with rfl | hc
          · exact hd
          · exact ih (List.mem_cons_self ..) c hc
        · exact ih (List.mem_cons_of_mem first h)

/-- What is no separator stands in a piece. -/
theorem mem_splitBy {sep : Char → Bool} {s : List Char} {c : Char} (h : c ∈ s)
    (hc : sep c = false) : ∃ piece ∈ splitBy sep s, c ∈ piece := by
  induction s with
  | nil => contradiction
  | cons d s ih =>
    rw [splitBy]
    cases hs : splitBy sep s with
    | nil => exact (splitBy_ne_nil sep s hs).elim
    | cons first pieces =>
      simp only [hs] at ih
      rcases List.mem_cons.mp h with rfl | h
      · exact ⟨c :: first, by simp [hc], List.mem_cons_self⟩
      · obtain ⟨piece, hpiece, hmem⟩ := ih h
        cases sep d with
        | true => exact ⟨piece, by simp [List.mem_cons.mp hpiece], hmem⟩
        | false =>
          rcases List.mem_cons.mp hpiece with rfl | hpiece
          · exact ⟨d :: piece, by simp, List.mem_cons_of_mem d hmem⟩
          · exact ⟨piece, by simp [hpiece], hmem⟩

/-- What stands before the first character that satisfies `sep`, and what follows it if there is
one. -/
def cut (sep : Char → Bool) : List Char → List Char × Option (List Char)
  | [] => ([], none)
  | c :: rest =>
    if sep c then ([], some rest)
    else
      let (before, after) := cut sep rest
      (c :: before, after)

theorem cut_append (sep : Char → Bool) {s : List Char} (h : ∀ c ∈ s, sep c = false) {c : Char}
    (hc : sep c = true) (rest : List Char) : cut sep (s ++ c :: rest) = (s, some rest) := by
  induction s with
  | nil => simp [cut, hc]
  | cons d s ih =>
    simp [cut, h d (by simp), ih fun e he => h e (by simp [he])]

end SchemaInterfaces.Text
