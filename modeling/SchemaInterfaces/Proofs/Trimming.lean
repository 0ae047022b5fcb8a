import Mathlib.Data.List.DropRight
import SchemaInterfaces.Text.Blank

/-! Texts without the blanks around them. -/
namespace SchemaInterfaces.Text

variable {s u w : List Char} {c d : Char}

theorem trimChars_trimChars (s : List Char) : trimChars (trimChars s) = trimChars s := by
  have hstart : trimChars s <+: s.dropWhile isBlank := List.rdropWhile_prefix isBlank _
  have hfront : (trimChars s).dropWhile isBlank = trimChars s := by
    rw [List.dropWhile_eq_self_iff]
    intro hpos
    have hlong : 0 < (s.dropWhile isBlank).length := hpos.trans_le hstart.length_le
    rw [hstart.getElem hpos]
    exact List.dropWhile_eq_self_iff.mp (List.dropWhile_idempotent isBlank s) hlong
  change ((trimChars s).dropWhile isBlank).rdropWhile isBlank = trimChars s
  rw [hfront]
  exact List.rdropWhile_idempotent isBlank _

theorem trim_trim (s : String) : trim (trim s) = trim s := by
  rw [trim, trim, String.toList_ofList, trimChars_trimChars]

theorem trimChars_blanks_append (h : ∀ c ∈ u, isBlank c = true) :
    trimChars (u ++ s) = trimChars s := by
  rw [trimChars, trimChars, List.dropWhile_append_of_pos h]

theorem trimChars_append_blanks (h : ∀ c ∈ w, isBlank c = true) :
    trimChars (s ++ w) = trimChars s := by
  have hw : w.dropWhile isBlank = [] := List.dropWhile_eq_nil_iff.mpr h
  rw [trimChars, trimChars, List.dropWhile_append]
  split
  · rename_i hs
    rw [hw, List.isEmpty_iff.mp hs]
  · rw [List.reverse_append, List.dropWhile_append_of_pos (by simpa using h)]

/-- A text between two characters that are not blank stays as it is. -/
theorem trimChars_eq_self (hc : isBlank c = false) (hd : isBlank d = false)
    (hfront : s.head? = some c) (hback : s.getLast? = some d) : trimChars s = s := by
  obtain ⟨rest, rfl⟩ := List.head?_eq_some_iff.mp hfront
  obtain ⟨front, hs⟩ := List.getLast?_eq_some_iff.mp hback
  rw [trimChars, List.dropWhile_cons_of_neg (by simp [hc]), hs, List.reverse_append,
    List.reverse_singleton, List.singleton_append, List.dropWhile_cons_of_neg (by simp [hd]),
    List.reverse_cons, List.reverse_reverse]

theorem trimChars_of_none (h : ∀ c ∈ s, isBlank c = false) : trimChars s = s := by
  cases hs : s with
  | nil => rfl
  | cons c rest =>
    rw [← hs]
    have hne : s ≠ [] := by simp [hs]
    exact trimChars_eq_self (h c (by simp [hs])) (h _ (List.getLast_mem hne)) (by simp [hs])
      (List.getLast?_eq_some_getLast hne)

theorem mem_dropWhile_of_mem {p : Char → Bool} (h : c ∈ s) (hc : p c = false) :
    c ∈ s.dropWhile p := by
  rw [← List.takeWhile_append_dropWhile (p := p) (l := s), List.mem_append] at h
  refine h.resolve_left ?_
  intro htake
  simpa [hc] using List.mem_takeWhile_imp htake

/-- Nothing but blanks is trimmed off. -/
theorem mem_trimChars_of_mem (h : c ∈ s) (hc : isBlank c = false) : c ∈ trimChars s := by
  rw [trimChars, List.mem_reverse]
  exact mem_dropWhile_of_mem (List.mem_reverse.mpr (mem_dropWhile_of_mem h hc)) hc

/-- No character but white space, or none at all. -/
def Blank (s : String) : Prop := ∀ c ∈ s.toList, isBlank c = true

-- Along the text: there are finitely many characters, and an instance that tries all of them.
instance (s : String) : Decidable (Blank s) :=
  List.decidableBAll (fun c => isBlank c = true) s.toList

theorem trimChars_eq_nil_iff : trimChars s = [] ↔ ∀ c ∈ s, isBlank c = true := by
  constructor
  · intro h c hmem
    by_contra hc
    have := mem_trimChars_of_mem hmem (by simpa using hc)
    simp [h] at this
  · intro h
    rw [← List.append_nil s, trimChars_blanks_append h, trimChars_nil]

theorem trim_eq_empty_iff {s : String} : trim s = "" ↔ Blank s := by
  rw [trim, String.ofList_eq_empty_iff, trimChars_eq_nil_iff]
  exact Iff.rfl

end SchemaInterfaces.Text
