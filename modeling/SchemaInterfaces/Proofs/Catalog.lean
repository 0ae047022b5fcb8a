import SchemaInterfaces.Schema.Catalog
import SchemaInterfaces.Proofs.Keyed

/-! Catalogs as ordered maps: whatever is registered and excluded, the index names every entity at
its place, and the entities are those of a keyed list with the same history. -/
namespace SchemaInterfaces.Schema

/-- What can be done to a catalog. -/
inductive Change where
  | register (e : Entity)
  | exclude (spaces : List String)

/-- What a change does to entities kept in order under their qualified names. -/
def Change.onEntries (xs : List (String × Entity)) : Change → List (String × Entity)
  | register e => Keyed.put e.qualifiedName e xs
  | exclude spaces => xs.filter fun (_, e) => !spaces.contains e.ns

/-- An entity under its qualified name. -/
def Entity.entry (e : Entity) : String × Entity := (e.qualifiedName, e)

namespace Catalog
variable {c : Catalog}

def apply (c : Catalog) : Change → Catalog
  | .register e => c.register e
  | .exclude spaces => c.exclude spaces

/-- The entities, each under its qualified name. -/
def entries (c : Catalog) : List (String × Entity) := c.entities.map Entity.entry

/-- The qualified names, in order. -/
def names (c : Catalog) : List String := c.entities.map Entity.qualifiedName

/-- The index holds the place of every entity under its qualified name, and nothing else. -/
def Indexed (c : Catalog) : Prop :=
  ∀ (q : String) (i : Nat), c.index[q]? = some i ↔ c.names[i]? = some q

theorem map_fst_entries : c.entries.map Prod.fst = c.names := by
  simp [entries, names, Entity.entry, Function.comp_def]

theorem map_snd_entries : c.entries.map Prod.snd = c.entities := by
  simp [entries, Entity.entry, Function.comp_def]

theorem indexed_empty : empty.Indexed := by
  intro q i
  simp [empty, names]

theorem nodup_names (h : c.Indexed) : c.names.Nodup := by
  rw [List.nodup_iff_getElem?_ne_getElem?]
  intro i j hij hj he
  have hj' := List.getElem?_eq_getElem hj
  have h₁ := (h _ i).mpr (he.trans hj')
  have h₂ := (h _ j).mpr hj'
  have : i = j := by simpa [h₁] using h₂
  omega

theorem nodup_entries (h : c.Indexed) : (c.entries.map Prod.fst).Nodup := by
  rw [map_fst_entries]
  exact nodup_names h

/-- At a place that the index gives stands an entity of that name. -/
theorem entry_of_index (h : c.Indexed) {q : String} {i : Nat} (hi : c.index[q]? = some i) :
    ∃ e, c.entities[i]? = some e ∧ c.entries[i]? = some (q, e) := by
  obtain ⟨e, he, hq⟩ : ∃ e, c.entities[i]? = some e ∧ e.qualifiedName = q := by
    simpa [names] using (h q i).mp hi
  exact ⟨e, he, by simp [entries, Entity.entry, he, hq]⟩

/-- A name without a place in the index is the name of no entity. -/
theorem notMem_names (h : c.Indexed) {q : String} (hq : c.index[q]? = none) : q ∉ c.names := by
  intro hm
  obtain ⟨i, hi⟩ := List.mem_iff_getElem?.mp hm
  simp [(h q i).mpr hi] at hq

theorem names_register (h : c.Indexed) (e : Entity) :
    (c.register e).names =
      if e.qualifiedName ∈ c.names then c.names else c.names ++ [e.qualifiedName] := by
  cases hi : c.index[e.qualifiedName]? with
  | some i =>
    have hn := (h _ i).mp hi
    obtain ⟨hlt, hq⟩ := List.getElem?_eq_some_iff.mp hn
    rw [if_pos (List.mem_of_getElem? hn)]
    simp only [register, hi, names, List.map_set]
    rw [← hq]
    exact List.set_getElem_self hlt
  | none =>
    rw [if_neg (notMem_names h hi)]
    simp [register, hi, names]

theorem indexed_register (h : c.Indexed) (e : Entity) : (c.register e).Indexed := by
  intro q j
  cases hi : c.index[e.qualifiedName]? with
  | some i =>
    rw [names_register h, if_pos (List.mem_of_getElem? ((h _ i).mp hi))]
    simpa [register, hi] using h q j
  | none =>
    have hnew := notMem_names h hi
    have hlen : c.names.length = c.entities.length := List.length_map _
    rw [names_register h, if_neg hnew, register, hi]
    simp only [Std.TreeMap.getElem?_insert, Std.LawfulEqOrd.compare_eq_iff_eq,
      List.getElem?_append, hlen]
    by_cases hj : j < c.entities.length
    · -- An old place keeps its name, which is not the new one.
      rw [if_pos hj, ← h q j]
      have : c.names[j]? ≠ some e.qualifiedName := fun he => hnew (List.mem_of_getElem? he)
      by_cases hq : e.qualifiedName = q
      · subst hq
        simp [hi]
        omega
      · rw [if_neg hq]
    · rw [if_neg hj, List.getElem?_singleton]
      by_cases hq : e.qualifiedName = q
      · subst hq
        simp
        omega
      · have : c.index[q]? ≠ some j := by
          intro he
          have := (List.getElem?_eq_some_iff.mp ((h q j).mp he)).1
          omega
        simp [hq, this]

theorem indexed_registerAll (h : c.Indexed) (es : List Entity) : (c.registerAll es).Indexed := by
  induction es generalizing c with
  | nil => exact h
  | cons e es ih => exact ih (indexed_register h e)

theorem indexed_ofList (es : List Entity) : (ofList es).Indexed :=
  indexed_registerAll indexed_empty es

theorem indexed_exclude (h : c.Indexed) (spaces : List String) : (c.exclude spaces).Indexed := by
  unfold exclude
  split
  · exact h
  · exact indexed_ofList _

theorem entries_register (h : c.Indexed) (e : Entity) :
    (c.register e).entries = Keyed.put e.qualifiedName e c.entries := by
  cases hi : c.index[e.qualifiedName]? with
  | some i =>
    obtain ⟨old, _, hat⟩ := entry_of_index h hi
    rw [Keyed.put_eq_set (nodup_entries h) hat]
    simp [register, hi, entries, Entity.entry]
  | none =>
    rw [Keyed.put_of_notMem (map_fst_entries ▸ notMem_names h hi)]
    simp [register, hi, entries, Entity.entry]

theorem entries_registerAll (h : c.Indexed) (es : List Entity) :
    (c.registerAll es).entries = Keyed.collect c.entries (es.map Entity.entry) := by
  induction es generalizing c with
  | nil => rfl
  | cons e es ih =>
    rw [registerAll_cons, ih (indexed_register h e), entries_register h]
    rfl

theorem entries_ofList (es : List Entity) :
    (ofList es).entries = Keyed.collect [] (es.map Entity.entry) :=
  entries_registerAll indexed_empty es

theorem entities_ofList {es : List Entity} (hd : (es.map Entity.qualifiedName).Nodup) :
    (ofList es).entities = es := by
  have hd' : ((es.map Entity.entry).map Prod.fst).Nodup := by
    rwa [List.map_map]
  rw [← map_snd_entries, entries_ofList, Keyed.collect_of_disjoint (by simpa using hd'),
    List.nil_append, List.map_map]
  exact List.map_id es

/-- Registering anew what is left after an exclusion meets no name twice. -/
theorem entities_exclude (hd : c.names.Nodup) (spaces : List String) :
    (c.exclude spaces).entities = c.entities.filter fun e => !spaces.contains e.ns := by
  unfold exclude
  split
  · rename_i hs
    simp [List.isEmpty_iff.mp hs]
  · exact entities_ofList (hd.sublist (List.filter_sublist.map _))

theorem entries_exclude (h : c.Indexed) (spaces : List String) :
    (c.exclude spaces).entries = c.entries.filter fun (_, e) => !spaces.contains e.ns := by
  rw [entries, entities_exclude (nodup_names h), entries, List.filter_map]
  rfl

theorem indexed_apply (h : c.Indexed) (change : Change) : (c.apply change).Indexed := by
  cases change with
  | register e => exact indexed_register h e
  | exclude spaces => exact indexed_exclude h spaces

theorem entries_apply (h : c.Indexed) (change : Change) :
    (c.apply change).entries = change.onEntries c.entries := by
  cases change with
  | register e => exact entries_register h e
  | exclude spaces => exact entries_exclude h spaces

/-- A whole history keeps the index, and has the same effect on catalog and keyed list. -/
theorem entries_foldl_apply (h : c.Indexed) (changes : List Change) :
    (changes.foldl apply c).Indexed ∧
      (changes.foldl apply c).entries = changes.foldl Change.onEntries c.entries := by
  induction changes generalizing c with
  | nil => exact ⟨h, rfl⟩
  | cons change changes ih =>
    rw [List.foldl_cons, List.foldl_cons, ← entries_apply h]
    exact ih (indexed_apply h change)

/-- The entities are those that their own qualified names lead to. -/
theorem mem_entities_iff (h : c.Indexed) {e : Entity} :
    e ∈ c.entities ↔ c.entries.lookup e.qualifiedName = some e := by
  constructor
  · intro he
    obtain ⟨i, hi⟩ := List.mem_iff_getElem?.mp he
    have hat : c.entries[i]? = some (e.qualifiedName, e) := by simp [entries, Entity.entry, hi]
    exact Keyed.lookup_of_getElem? (nodup_entries h) hat
  · intro hl
    obtain ⟨before, after, hx, _⟩ := List.lookup_eq_some_iff.mp hl
    rw [← map_snd_entries, hx]
    simp

/-- A registration keeps another entity in place unless both have one qualified name. -/
theorem mem_register_iff (h : c.Indexed) {e x : Entity} (hx : x ∈ c.entities) (hne : x ≠ e) :
    x ∈ (c.register e).entities ↔ x.qualifiedName ≠ e.qualifiedName := by
  rw [mem_entities_iff (indexed_register h e), entries_register h, Keyed.lookup_put]
  by_cases hq : x.qualifiedName = e.qualifiedName
  · simp [hq, Ne.symm hne]
  · simpa [hq] using (mem_entities_iff h).mp hx

theorem get?_eq_lookup (h : c.Indexed) (ns name : String) :
    c.get? ns name = c.entries.lookup (ns ++ "." ++ name) := by
  unfold get?
  cases hi : c.index[ns ++ "." ++ name]? with
  | some i =>
    obtain ⟨e, he, hat⟩ := entry_of_index h hi
    rw [Keyed.lookup_of_getElem? (nodup_entries h) hat, Option.bind_some, he]
  | none =>
    have hnew := map_fst_entries ▸ notMem_names h hi
    symm
    rw [Option.bind_none, List.lookup_eq_none_iff]
    intro p hp
    have : ns ++ "." ++ name ≠ p.1 := fun he => hnew (he ▸ List.mem_map_of_mem hp)
    simpa using this

theorem lookup_collect_entries_from (xs : List (String × Entity)) (es : List Entity) (q : String) :
    (Keyed.collect xs (es.map Entity.entry)).lookup q =
      (es.filter (·.qualifiedName = q)).getLast?.or (xs.lookup q) := by
  rw [Keyed.lookup_collect, List.filter_map, List.getLast?_map, Option.map_map]
  exact congrArg (Option.or · _) (congrFun Option.map_id _)

theorem lookup_collect_entries (es : List Entity) (q : String) :
    (Keyed.collect [] (es.map Entity.entry)).lookup q =
      (es.filter (·.qualifiedName = q)).getLast? := by
  rw [lookup_collect_entries_from, List.lookup_nil, Option.or_none]

/-- Of the entities registered the last of each name is there, and what was there before stays
unless one has its name. -/
theorem mem_registerAll_iff (h : c.Indexed) {es : List Entity} {x : Entity} :
    x ∈ (c.registerAll es).entities ↔
      (es.filter (·.qualifiedName = x.qualifiedName)).getLast? = some x ∨
        x ∈ c.entities ∧ x.qualifiedName ∉ es.map Entity.qualifiedName := by
  have hnone : (es.filter (·.qualifiedName = x.qualifiedName)).getLast? = none ↔
      x.qualifiedName ∉ es.map Entity.qualifiedName := by
    rw [List.getLast?_eq_none_iff, List.filter_eq_nil_iff]
    simp
  rw [mem_entities_iff (indexed_registerAll h es), entries_registerAll h,
    lookup_collect_entries_from, Option.or_eq_some_iff, hnone, mem_entities_iff h]
  exact or_congr_right and_comm

/-- A collected catalog finds the last entity whose qualified name is the joined text. -/
theorem get?_ofList (es : List Entity) (ns name : String) :
    (ofList es).get? ns name = (es.filter (·.qualifiedName = ns ++ "." ++ name)).getLast? := by
  rw [get?_eq_lookup (indexed_ofList es), entries_ofList, lookup_collect_entries]

/-- Starting from collected entities (none, for a new catalog), after any changes the index and the
entities agree, and the catalog is the keyed list that the same changes make. Collecting alone
leaves the distinct qualified names where they first occur, each with its last definition. -/
theorem history_keyed (es : List Entity) (changes : List Change) :
    let c := changes.foldl apply (ofList es)
    let xs := changes.foldl Change.onEntries (Keyed.collect [] (es.map Entity.entry))
    (∀ (q : String) (i : Nat), c.index[q]? = some i ↔
      ∃ h : i < c.entities.length, c.entities[i].qualifiedName = q) ∧
    (c.entities.map Entity.qualifiedName).Nodup ∧
    c.entries = xs ∧
    (∀ ns name, c.get? ns name = xs.lookup (ns ++ "." ++ name)) ∧
    (ofList es).entities.map some = ((es.map Entity.qualifiedName).eraseDups).map fun q =>
      (es.filter (·.qualifiedName = q)).getLast? := by
  intro c xs
  obtain ⟨hc, hxs⟩ := entries_foldl_apply (indexed_ofList es) changes
  rw [entries_ofList] at hxs
  refine ⟨?_, nodup_names hc, hxs, ?_, ?_⟩
  · intro q i
    rw [hc q i, names, List.getElem?_eq_some_iff]
    simp [c]
  · intro ns name
    rw [get?_eq_lookup hc, hxs]
  · have hd : ((Keyed.collect [] (es.map Entity.entry)).map Prod.fst).Nodup :=
      Keyed.nodup_collect (by simp) _
    have hnames : es.map Entity.qualifiedName = (es.map Entity.entry).map Prod.fst := by
      rw [List.map_map]
      rfl
    rw [← map_snd_entries, entries_ofList, List.map_map, hnames, ← Keyed.map_fst_collect]
    refine (Keyed.map_lookup_fst hd).symm.trans ?_
    apply List.map_congr_left
    intro q _
    exact lookup_collect_entries es q

end Catalog

end SchemaInterfaces.Schema
