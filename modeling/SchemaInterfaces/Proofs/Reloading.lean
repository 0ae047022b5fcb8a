import SchemaInterfaces.Proofs.Catalog
import SchemaInterfaces.Proofs.Loading

/-! Registering or loading the same again: definitions of one name replace each other on the way,
but the catalog ends as it was. -/
namespace SchemaInterfaces.Schema.Catalog
variable {c : Catalog} {e x : Entity} {es : List Entity} {source : Source} {text : String}

/-- Nothing but the entities in order and the index makes a catalog. -/
theorem eq_of_entries {d : Catalog} (hentries : c.entries = d.entries)
    (hindex : c.index = d.index) : c = d := by
  have hentities : c.entities = d.entities := by
    rw [← map_snd_entries, hentries, map_snd_entries]
  cases c
  cases d
  congr

theorem mem_names_registerAll (h : c.Indexed) (es : List Entity) {q : String} :
    q ∈ (c.registerAll es).names ↔ q ∈ c.names ∨ q ∈ es.map Entity.qualifiedName := by
  have hkeys : (es.map Entity.entry).map Prod.fst = es.map Entity.qualifiedName := by
    rw [List.map_map]
    rfl
  rw [← map_fst_entries, entries_registerAll h, Keyed.mem_map_fst_collect, map_fst_entries, hkeys]

theorem index_register_of_mem (h : c.Indexed) (he : e.qualifiedName ∈ c.names) :
    (c.register e).index = c.index := by
  obtain ⟨i, hi⟩ := List.mem_iff_getElem?.mp he
  simp [register, (h _ i).mpr hi]

/-- Entities whose names are all there leave the index as it is. -/
theorem index_registerAll_of_subset (h : c.Indexed)
    (hes : es.map Entity.qualifiedName ⊆ c.names) : (c.registerAll es).index = c.index := by
  induction es generalizing c with
  | nil => rfl
  | cons e es ih =>
    obtain ⟨he, hes⟩ := List.cons_subset.mp hes
    have hnames : (c.register e).names = c.names := by rw [names_register h, if_pos he]
    rw [registerAll_cons, ih (indexed_register h e) (hnames ▸ hes), index_register_of_mem h he]

theorem registerAll_registerAll (h : c.Indexed) (es : List Entity) :
    (c.registerAll es).registerAll es = c.registerAll es := by
  have hagain := indexed_registerAll h es
  apply eq_of_entries
  · rw [entries_registerAll hagain, entries_registerAll h, Keyed.collect_collect (nodup_entries h)]
  · apply index_registerAll_of_subset hagain
    exact fun _ hq => (mem_names_registerAll h es).mpr (.inr hq)

/-- Whatever was registered and excluded before, loading a text a second time has the same outcome,
a count or an error, and leaves the catalog as it is, with its index. -/
theorem load_again (es : List Entity) (changes : List Change) (source : Source) (text : String) :
    let c := changes.foldl apply (ofList es)
    (c.load source text).2.load source text = c.load source text := by
  intro c
  have hc : c.Indexed := (entries_foldl_apply (indexed_ofList es) changes).1
  cases hload : c.load source text with
  | mk outcome c' =>
    cases outcome with
    | error err =>
      obtain rfl := load_error hload
      exact hload
    | ok n =>
      rcases load_eq_ok_iff.mp hload with ⟨d, _, _, _, _, rfl⟩ | ⟨d, held, hd, rfl, rfl⟩
      · exact hload
      · exact load_eq_ok_iff.mpr (.inr ⟨d, held, hd, rfl, (registerAll_registerAll hc held).symm⟩)

/-- On the way through two definitions of one name the first one is back for a while. -/
example :
    let first : Entity := { name := "Cart", ns := "shop" }
    let last := first.addField { name := "total", kind := .decimal }
    let c := ofList [first, last]
    c.entities = [last] ∧ (c.register first).entities = [first] ∧
      ((c.register first).register last).entities = [last] := by
  decide

end SchemaInterfaces.Schema.Catalog
