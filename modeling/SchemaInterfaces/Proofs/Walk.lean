import SchemaInterfaces.Disk.Tree
import SchemaInterfaces.Proofs.Keyed

/-! Walks over a disk: which files a walk meets, and that it meets them in the order of their names,
compared from the outermost folder down and byte by byte. -/
namespace SchemaInterfaces.Disk.Tree

/-- A file lies somewhere below a location, with folders all the way down to it. -/
inductive Reaches (t : Tree) : Location → Location → Content → Prop where
  | file {loc : Location} {name : String} {content : Content}
      (here : t.entry? (loc ++ [name]) = some (.file content)) : Reaches t loc [name] content
  | folder {loc l : Location} {name : String} {content : Content}
      (here : t.entry? (loc ++ [name]) = some .folder)
      (deeper : Reaches t (loc ++ [name]) l content) : Reaches t loc (name :: l) content

/-- Names compared one after the other, each by its bytes. -/
def Before (l m : Location) : Prop := l.map bytes < m.map bytes

variable {t : Tree} {loc l m : Location} {name : String} {content : Content}

theorem bytes_inj {a b : String} : bytes a = bytes b ↔ a = b := by
  rw [bytes, bytes, Array.toList_inj]
  constructor
  · intro h
    exact String.toByteArray_inj.mp (ByteArray.ext h)
  · rintro rfl
    rfl

theorem before_cons_iff {a b : String} :
    Before (a :: l) (b :: m) ↔ bytes a < bytes b ∨ a = b ∧ Before l m := by
  rw [Before, List.map_cons, List.map_cons, List.cons_lt_cons_iff, bytes_inj]
  rfl

theorem not_before_self (l : Location) : ¬ Before l l := by
  induction l with
  | nil => simp [Before]
  | cons name l ih =>
    rw [before_cons_iff]
    rintro (h | ⟨-, h⟩)
    · exact List.lt_irrefl _ h
    · exact ih h

theorem nodup_eraseDups (names : List String) : names.eraseDups.Nodup := by
  have hkeys : names = (names.map fun name => (name, ())).map Prod.fst := by
    rw [List.map_map]
    exact (List.map_id names).symm
  rw [hkeys, ← Keyed.map_fst_collect]
  exact Keyed.nodup_collect (by simp) _

theorem entry?_isSome_iff (hne : l ≠ []) :
    (t.entry? l).isSome ↔ ∃ e, (l, e) ∈ t.entries := by
  rw [ entry?, if_neg hne, Option.isSome_iff_ne_none, ne_eq, List.lookup_eq_none_iff]
  constructor
  · intro h
    by_contra hnone
    refine h fun entry hentry => ?_
    have : l ≠ entry.1 := fun he => hnone ⟨entry.2, he ▸ hentry⟩
    simpa using this
  · rintro ⟨e, he⟩ hnone
    simpa using hnone (l, e) he

theorem mem_namesIn_iff : name ∈ t.namesIn loc ↔ (t.entry? (loc ++ [name])).isSome := by
  have hlast : ∀ l : Location, (if l.dropLast = loc then l.getLast? else none) = some name ↔
      l = loc ++ [name] := by
    intro l
    constructor
    · intro h
      split at h
      · rename_i hl
        obtain ⟨front, rfl⟩ := List.getLast?_eq_some_iff.mp h
        rw [List.dropLast_concat] at hl
        rw [hl]
      · contradiction
    · rintro rfl
      simp
  rw [ entry?_isSome_iff (by simp), namesIn, List.mem_mergeSort, List.mem_eraseDups,
    List.mem_filterMap]
  constructor
  · rintro ⟨⟨l, e⟩, hentry, h⟩
    exact ⟨e, (hlast l).mp h ▸ hentry⟩
  · rintro ⟨e, hentry⟩
    exact ⟨_, hentry, (hlast _).mpr rfl⟩

theorem pairwise_namesIn (t : Tree) (loc : Location) :
    (t.namesIn loc).Pairwise fun a b => bytes a < bytes b := by
  have hle : (t.namesIn loc).Pairwise fun a b => bytes a ≤ bytes b := by
    refine (List.pairwise_mergeSort ?_ ?_ _).imp fun h => of_decide_eq_true h
    · intro a b c hab hbc
      exact decide_eq_true (List.le_trans (of_decide_eq_true hab) (of_decide_eq_true hbc))
    · intro a b
      simpa using List.le_total (bytes a) (bytes b)
  have hne : (t.namesIn loc).Nodup :=
    (List.mergeSort_perm _ _).nodup_iff.mpr (nodup_eraseDups _)
  refine (hle.and hne).imp fun {a b} h => ?_
  rcases List.le_iff_lt_or_eq.mp h.1 with hlt | heq
  · exact hlt
  · exact (h.2 (bytes_inj.mp heq)).elim

theorem not_reaches_nil : ¬ t.Reaches loc [] content := by
  intro h
  cases h

theorem mem_under_iff {inside : List (Location × Content)} {e : Option Entry} :
    (l, content) ∈ under name inside e ↔ e = some (.file content) ∧ l = [name] ∨
      e = some .folder ∧ ∃ m, (m, content) ∈ inside ∧ l = name :: m := by
  rcases e with _ | _ | _
  · simp [under]
  · simp [under, and_comm, eq_comm]
  · simp [under, eq_comm]

/-- A walk meets exactly the files that lie below and not too deep. -/
theorem mem_walk_iff {depth : Nat} :
    (l, content) ∈ t.walk depth loc ↔ l.length ≤ depth ∧ t.Reaches loc l content := by
  induction depth generalizing loc l with
  | zero =>
    cases l with
    | nil => simp [walk, not_reaches_nil]
    | cons name l => simp [walk]
  | succ depth ih =>
    rw [walk, List.mem_flatMap]
    simp only [mem_under_iff]
    constructor
    · rintro ⟨name, -, ⟨here, rfl⟩ | ⟨here, m, hm, rfl⟩⟩
      · exact ⟨by simp, .file here⟩
      · obtain ⟨hlen, hm⟩ := ih.mp hm
        exact ⟨Nat.succ_le_succ hlen, .folder here hm⟩
    · rintro ⟨hlen, h⟩
      cases h with
      | @file _ name _ here =>
        exact ⟨name, mem_namesIn_iff.mpr (by simp [here]), .inl ⟨here, rfl⟩⟩
      | @folder _ l name _ here deeper =>
        have hl := ih.mpr ⟨Nat.le_of_succ_le_succ hlen, deeper⟩
        exact ⟨name, mem_namesIn_iff.mpr (by simp [here]), .inr ⟨here, l, hl, rfl⟩⟩

theorem head_of_mem_under {inside : List (Location × Content)} {e : Option Entry}
    {file : Location × Content} (h : file ∈ under name inside e) : ∃ l, file.1 = name :: l := by
  rcases mem_under_iff.mp h with ⟨-, hl⟩ | ⟨-, m, -, hl⟩
  · exact ⟨[], hl⟩
  · exact ⟨m, hl⟩

theorem pairwise_under {inside : List (Location × Content)}
    (h : inside.Pairwise fun a b => Before a.1 b.1) (e : Option Entry) :
    (under name inside e).Pairwise fun a b => Before a.1 b.1 := by
  rcases e with _ | _ | _
  · exact .nil
  · exact List.pairwise_singleton ..
  · rw [under, List.pairwise_map]
    exact h.imp fun hab => before_cons_iff.mpr (.inr ⟨rfl, hab⟩)

/-- A walk meets the files in order, each once. -/
theorem pairwise_walk (t : Tree) (depth : Nat) (loc : Location) :
    (t.walk depth loc).Pairwise fun a b => Before a.1 b.1 := by
  induction depth generalizing loc with
  | zero => exact .nil
  | succ depth ih =>
    rw [walk, List.pairwise_flatMap]
    constructor
    · intro name _
      exact pairwise_under (ih _) _
    · refine (pairwise_namesIn t loc).imp fun {a b} hab x hx y hy => ?_
      obtain ⟨l, hl⟩ := head_of_mem_under hx
      obtain ⟨m, hm⟩ := head_of_mem_under hy
      rw [hl, hm]
      exact before_cons_iff.mpr (.inl hab)

/-- What lies below the root lies no deeper than the disk is. -/
theorem length_le_depth {e : Entry} (h : (l, e) ∈ t.entries) : l.length ≤ t.depth := by
  have hmem : l.length ∈ t.entries.map (·.1.length) := List.mem_map.mpr ⟨(l, e), h, rfl⟩
  unfold depth
  generalize t.entries.map (·.1.length) = lengths at hmem
  induction lengths with
  | nil => contradiction
  | cons n lengths ih =>
    rw [List.foldr_cons]
    rcases List.mem_cons.mp hmem with rfl | hmem
    · exact Nat.le_max_left ..
    · exact Nat.le_trans (ih hmem) (Nat.le_max_right ..)

theorem Reaches.entry (h : t.Reaches loc l content) :
    t.entry? (loc ++ l) = some (.file content) := by
  induction h with
  | file here => exact here
  | folder here deeper ih => simpa using ih

theorem Reaches.mem_entries (h : t.Reaches loc l content) :
    (loc ++ l, .file content) ∈ t.entries := by
  have hne : loc ++ l ≠ [] := by
    intro hnil
    rw [(List.append_eq_nil_iff.mp hnil).2] at h
    exact not_reaches_nil h
  have hentry := h.entry
  rw [ entry?, if_neg hne] at hentry
  obtain ⟨before, after, hentries, -⟩ := List.lookup_eq_some_iff.mp hentry
  rw [hentries]
  simp

theorem mem_filesBelow_iff : (l, content) ∈ t.filesBelow loc ↔ t.Reaches loc l content := by
  rw [filesBelow, mem_walk_iff]
  refine ⟨And.right, fun h => ⟨?_, h⟩⟩
  have hlen := length_le_depth h.mem_entries
  rw [List.length_append] at hlen
  omega

end SchemaInterfaces.Disk.Tree
