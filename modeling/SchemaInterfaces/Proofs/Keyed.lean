import SchemaInterfaces.Keyed
import Mathlib.Data.List.Induction
import Mathlib.Data.List.Nodup
import Mathlib.Data.List.Perm.Subperm

/-! Keyed lists as ordered maps: what putting does to keys and places, and what collecting values
one by one amounts to. -/
namespace SchemaInterfaces.Keyed
variable {κ α : Type} [DecidableEq κ] {k : κ} {x : α} {xs : List (κ × α)}

theorem map_fst_put (k : κ) (x : α) (xs : List (κ × α)) :
    (put k x xs).map Prod.fst =
      if k ∈ xs.map Prod.fst then xs.map Prod.fst else xs.map Prod.fst ++ [k] := by
  induction xs with
  | nil => rfl
  | cons y ys ih =>
    obtain ⟨j, old⟩ := y
    by_cases hj : j = k
    · simp [put, hj]
    · rw [put, if_neg hj, List.map_cons, ih]
      have hne : ¬ k = j := Ne.symm hj
      split <;> simp_all

theorem put_of_notMem (h : k ∉ xs.map Prod.fst) : put k x xs = xs ++ [(k, x)] := by
  induction xs with
  | nil => rfl
  | cons y ys ih =>
    obtain ⟨j, old⟩ := y
    simp only [List.map_cons, List.mem_cons, not_or] at h
    rw [put, if_neg (Ne.symm h.1), ih h.2, List.cons_append]

/-- Among distinct keys, a key that is there is replaced at its place and nowhere else. -/
theorem put_eq_set (hd : (xs.map Prod.fst).Nodup) {i : Nat} {old : α}
    (hi : xs[i]? = some (k, old)) : put k x xs = xs.set i (k, x) := by
  induction xs generalizing i with
  | nil => simp at hi
  | cons y ys ih =>
    obtain ⟨j, z⟩ := y
    cases i with
    | zero =>
      have hj : j = k := by simp_all
      rw [put, if_pos hj, hj, List.set_cons_zero]
    | succ i =>
      have hd := List.nodup_cons.mp hd
      have hmem : k ∈ ys.map Prod.fst := List.mem_map.mpr ⟨_, List.mem_of_getElem? hi, rfl⟩
      have hj : j ≠ k := by
        intro he
        subst j
        exact hd.1 hmem
      rw [put, if_neg hj, List.set_cons_succ, ih hd.2 hi]

theorem nodup_put (hd : (xs.map Prod.fst).Nodup) : ((put k x xs).map Prod.fst).Nodup := by
  rw [map_fst_put]
  split
  · exact hd
  · rename_i h
    simpa using List.Nodup.concat h hd

/-- Among distinct keys, looking up every key in order gives the values in order. -/
theorem map_lookup_fst (hd : (xs.map Prod.fst).Nodup) :
    (xs.map Prod.fst).map (xs.lookup ·) = xs.map (some ·.2) := by
  rw [List.map_map]
  apply List.map_congr_left
  rintro ⟨j, z⟩ hy
  obtain ⟨before, after, rfl⟩ := List.append_of_mem hy
  refine List.lookup_eq_some_iff.mpr ⟨before, after, rfl, ?_⟩
  intro p hp
  have hne : j ∉ before.map Prod.fst := by
    simp only [List.map_append, List.map_cons, List.nodup_append] at hd
    exact fun hj => hd.2.2 j hj j (by simp) rfl
  have : j ≠ p.1 := fun he => hne (he ▸ List.mem_map_of_mem hp)
  simpa using this

/-- Among distinct keys, a list is known by its keys in order and by what is found under each. -/
theorem eq_of_lookup {ys : List (κ × α)} (hd : (xs.map Prod.fst).Nodup)
    (hkeys : xs.map Prod.fst = ys.map Prod.fst) (h : ∀ k, xs.lookup k = ys.lookup k) : xs = ys := by
  have hvalues : xs.map (some ·.2) = ys.map (some ·.2) := by
    rw [← map_lookup_fst hd, ← map_lookup_fst (hkeys ▸ hd), ← hkeys]
    exact List.map_congr_left fun k _ => h k
  have hsnd : xs.map Prod.snd = ys.map Prod.snd := by
    apply List.map_injective_iff.mpr fun _ _ => Option.some.inj
    simpa [List.map_map, Function.comp_def] using hvalues
  rw [← List.zip_unzip xs, ← List.zip_unzip ys, List.unzip_eq_map, List.unzip_eq_map, hkeys, hsnd]

theorem lookup_of_getElem? (hd : (xs.map Prod.fst).Nodup) {i : Nat} (hi : xs[i]? = some (k, x)) :
    xs.lookup k = some x := by
  have h := congrArg (·[i]?) (map_lookup_fst hd)
  simpa [hi] using h

/-- Puts values one after the other, each under its key. -/
def collect (xs ys : List (κ × α)) : List (κ × α) := ys.foldl (fun xs y => put y.1 y.2 xs) xs

theorem collect_cons (y : κ × α) (ys : List (κ × α)) :
    collect xs (y :: ys) = collect (put y.1 y.2 xs) ys := rfl

theorem collect_concat (ys : List (κ × α)) (y : κ × α) :
    collect xs (ys ++ [y]) = put y.1 y.2 (collect xs ys) := by
  simp [collect]

theorem nodup_collect (hd : (xs.map Prod.fst).Nodup) (ys : List (κ × α)) :
    ((collect xs ys).map Prod.fst).Nodup := by
  induction ys generalizing xs with
  | nil => exact hd
  | cons y ys ih => exact ih (nodup_put hd)

theorem mem_map_fst_collect (ys : List (κ × α)) :
    k ∈ (collect xs ys).map Prod.fst ↔ k ∈ xs.map Prod.fst ∨ k ∈ ys.map Prod.fst := by
  induction ys generalizing xs with
  | nil => simp [collect]
  | cons y ys ih =>
    have hput : k ∈ (put y.1 y.2 xs).map Prod.fst ↔ k ∈ xs.map Prod.fst ∨ k = y.1 := by
      rw [map_fst_put]
      split
      · rename_i hy
        exact ⟨.inl, fun h => h.elim id fun he => he ▸ hy⟩
      · rw [List.mem_append, List.mem_singleton]
    rw [collect_cons, ih, hput, List.map_cons, List.mem_cons, or_assoc]

/-- Values under keys that are all there leave the keys as they are. -/
theorem map_fst_collect_of_subset {ys : List (κ × α)} (h : ys.map Prod.fst ⊆ xs.map Prod.fst) :
    (collect xs ys).map Prod.fst = xs.map Prod.fst := by
  induction ys generalizing xs with
  | nil => rfl
  | cons y ys ih =>
    obtain ⟨hy, hys⟩ := List.cons_subset.mp h
    have hput : (put y.1 y.2 xs).map Prod.fst = xs.map Prod.fst := by
      rw [map_fst_put, if_pos hy]
    rw [collect_cons, ih (hput ▸ hys), hput]

/-- The keys of collected values stand in the order in which they first occur. -/
theorem map_fst_collect (ys : List (κ × α)) :
    (collect [] ys).map Prod.fst = (ys.map Prod.fst).eraseDups := by
  induction ys using List.reverseRecOn with
  | nil => rfl
  | append_singleton ys y ih =>
    rw [collect_concat, map_fst_put, ih, List.map_append, List.eraseDups_append]
    simp only [List.mem_eraseDups, List.map_cons, List.map_nil]
    by_cases h : y.1 ∈ ys.map Prod.fst
    · rw [if_pos h, List.cons_removeAll]
      simp [h]
    · rw [if_neg h, List.cons_removeAll]
      simp [h, List.eraseDups_cons]

/-- Under each key stands the last value collected for it, or the one from before. -/
theorem lookup_collect (ys : List (κ × α)) (k : κ) :
    (collect xs ys).lookup k =
      ((ys.filter (·.1 = k)).getLast?.map Prod.snd).or (xs.lookup k) := by
  induction ys generalizing xs with
  | nil => rfl
  | cons y ys ih =>
    rw [collect_cons, ih, lookup_put]
    by_cases h : y.1 = k
    · cases hl : (ys.filter (·.1 = k)).getLast? <;> simp [h, List.getLast?_cons, hl]
    · simp [h, Ne.symm h]

/-- Collecting the same values again changes nothing. Values with one key may replace each other on
the way, but all keys keep their places and the last value under each is the same. -/
theorem collect_collect (hd : (xs.map Prod.fst).Nodup) (ys : List (κ × α)) :
    collect (collect xs ys) ys = collect xs ys := by
  have hsubset : ys.map Prod.fst ⊆ (collect xs ys).map Prod.fst :=
    fun _ hk => (mem_map_fst_collect ys).mpr (.inr hk)
  refine (eq_of_lookup (nodup_collect hd ys) (map_fst_collect_of_subset hsubset).symm ?_).symm
  intro k
  rw [lookup_collect ys k, lookup_collect ys k, lookup_collect ys k, ← Option.or_assoc,
    Option.or_self]

theorem lookup_collect_of_mem {ys : List (κ × α)} (hd : (ys.map Prod.fst).Nodup)
    (h : (k, x) ∈ ys) : (collect xs ys).lookup k = some x := by
  obtain ⟨before, after, rfl⟩ := List.append_of_mem h
  rw [List.map_append, List.map_cons] at hd
  have hk := List.nodup_middle.mp hd
  have hother : ∀ y ∈ before ++ after, y.1 ≠ k := by
    intro y hy he
    have hm : y.1 ∈ before.map Prod.fst ++ after.map Prod.fst := by
      rw [← List.map_append]
      exact List.mem_map_of_mem hy
    exact (List.nodup_cons.mp hk).1 (he ▸ hm)
  have hbefore : before.filter (·.1 = k) = [] := by
    simpa using fun a b hab => hother (a, b) (List.mem_append_left after hab)
  have hafter : after.filter (·.1 = k) = [] := by
    simpa using fun a b hab => hother (a, b) (List.mem_append_right before hab)
  rw [lookup_collect]
  simp [hbefore, hafter]

/-- Values with new and distinct keys are simply appended. -/
theorem collect_of_disjoint {ys : List (κ × α)}
    (hd : (xs.map Prod.fst ++ ys.map Prod.fst).Nodup) : collect xs ys = xs ++ ys := by
  induction ys generalizing xs with
  | nil => simp [collect]
  | cons y ys ih =>
    have hnew : y.1 ∉ xs.map Prod.fst := by
      intro hm
      exact (List.nodup_append.mp hd).2.2 _ hm _ (by simp) rfl
    rw [collect_cons, put_of_notMem hnew, ih (by simpa using hd)]
    simp

/-- As many values are left as were collected exactly if their keys are distinct. -/
theorem length_collect_eq_iff (ys : List (κ × α)) :
    (collect [] ys).length = ys.length ↔ (ys.map Prod.fst).Nodup := by
  have hd : ((collect [] ys).map Prod.fst).Nodup := nodup_collect (by simp) ys
  constructor
  · intro h
    have hsub : (collect [] ys).map Prod.fst ⊆ ys.map Prod.fst := by
      intro k hk
      rw [map_fst_collect] at hk
      exact List.mem_eraseDups.mp hk
    have hle : (ys.map Prod.fst).length ≤ ((collect [] ys).map Prod.fst).length := by
      simp [h]
    have hperm := (hd.subperm hsub).perm_of_length_le hle
    exact hperm.nodup_iff.mp hd
  · intro h
    rw [collect_of_disjoint (by simpa using h), List.nil_append]

/-! One key among others. -/

section Between
variable {front back : List (κ × α)} {name : κ} {y z : α}

theorem lookup_eq_none_iff : front.lookup name = none ↔ name ∉ front.map Prod.fst := by
  rw [List.lookup_eq_none_iff]
  constructor
  · intro h hmem
    obtain ⟨m, hm, rfl⟩ := List.mem_map.mp hmem
    exact bne_iff_ne.mp (h m hm) rfl
  · intro h m hm
    rw [bne_iff_ne]
    rintro rfl
    exact h (List.mem_map_of_mem hm)

theorem lookup_between (h : name ∉ front.map Prod.fst) :
    (front ++ (name, x) :: back).lookup name = some x := by
  rw [List.lookup_append, lookup_eq_none_iff.mpr h, Option.none_or, List.lookup_cons_self]

theorem lookup_between_of_ne (h : k ≠ name) :
    (front ++ (name, x) :: back).lookup k = (front ++ back).lookup k := by
  have hne : (k == name) = false := beq_eq_false_iff_ne.mpr h
  rw [List.lookup_append, List.lookup_append, List.lookup_cons, hne]

theorem put_between (h : name ∉ front.map Prod.fst) :
    put name y (front ++ (name, x) :: back) = front ++ (name, y) :: back := by
  induction front with
  | nil => simp [put]
  | cons m front ih =>
    rw [List.map_cons, List.mem_cons, not_or] at h
    rw [List.cons_append, put, if_neg (Ne.symm h.1), ih h.2, List.cons_append]

/-- Another key is put before it or behind it. -/
theorem put_between_of_ne (h : k ≠ name) :
    put k z (front ++ (name, x) :: back) =
      if k ∈ front.map Prod.fst then put k z front ++ (name, x) :: back
      else front ++ (name, x) :: put k z back := by
  induction front with
  | nil => simp [put, h.symm]
  | cons m front ih =>
    by_cases hm : m.1 = k
    · simp [put, hm]
    · rw [List.cons_append, put, if_neg hm, ih, put, if_neg hm]
      by_cases hk : k ∈ front.map Prod.fst
      · rw [if_pos hk, if_pos (by simp [hk]), List.cons_append]
      · rw [if_neg hk, if_neg (by simp [hk, Ne.symm hm]), List.cons_append]

theorem erase_between : erase name (front ++ (name, x) :: back) = erase name (front ++ back) := by
  simp [erase]

theorem erase_between_of_ne (h : k ≠ name) :
    erase k (front ++ (name, x) :: back) = erase k front ++ (name, x) :: erase k back := by
  simp [erase, h.symm]

theorem notMem_put (h : k ≠ name) (hfront : name ∉ front.map Prod.fst) :
    name ∉ (put k z front).map Prod.fst := by
  rw [map_fst_put]
  split
  · exact hfront
  · simpa [h.symm] using hfront

theorem notMem_erase (h : name ∉ front.map Prod.fst) : name ∉ (erase k front).map Prod.fst :=
  fun hmem => h ((List.filter_sublist.map Prod.fst).subset hmem)

end Between

end SchemaInterfaces.Keyed
