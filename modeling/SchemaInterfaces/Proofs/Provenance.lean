import SchemaInterfaces.Proofs.Catalog
import SchemaInterfaces.Proofs.Folders
import SchemaInterfaces.Proofs.Trimming

/-! Catalogs that only documents fill. Each of their entities is one that some document has
registered, so it has a name, and its namespace is blank only if that document gives it such a
one. -/
namespace SchemaInterfaces.Schema

/-- What happens to a catalog that only documents fill. -/
inductive Intake where
  | load (source : Source) (text : String)
  | exclude (spaces : List String)

variable {c : Catalog} {d : Document} {w e : Entity} {es : List Entity} {source : Source}
  {text : String} {i : Intake} {intakes more : List Intake}

namespace Catalog

def takeIn (c : Catalog) : Intake → Catalog
  | .load source text => (c.load source text).2
  | .exclude spaces => c.exclude spaces

/-- The catalog after all that happens to an empty one. -/
def gather (intakes : List Intake) : Catalog := intakes.foldl takeIn empty

theorem gather_concat (intakes : List Intake) (i : Intake) :
    gather (intakes ++ [i]) = (gather intakes).takeIn i := by
  simp [gather]

theorem load_of_holds (c : Catalog) (hd : Document.Holds source text d es) :
    (c.load source text).2 = c.registerAll es := by
  have hload := (load_eq_ok_iff (c := c)).mpr (.inr ⟨d, es, hd, rfl, rfl⟩)
  rw [hload]
  rfl

/-- What a text has registered is the same in every catalog: the entities of the document that it
holds, or nothing. -/
theorem exists_load_eq_registerAll (source : Source) (text : String) :
    ∃ es, (es = [] ∨ ∃ d, Document.Holds source text d es) ∧
      ∀ c : Catalog, (c.load source text).2 = c.registerAll es := by
  by_cases h : Accepted source text
  · obtain ⟨d, es, hd⟩ := h
    exact ⟨es, .inr ⟨d, hd⟩, fun c => load_of_holds c hd⟩
  · exact ⟨[], .inl rfl, fun c => load_of_not_accepted c h⟩

theorem indexed_takeIn (h : c.Indexed) (i : Intake) : (c.takeIn i).Indexed := by
  cases i with
  | exclude spaces => exact indexed_exclude h spaces
  | load source text =>
    obtain ⟨es, -, hload⟩ := exists_load_eq_registerAll source text
    rw [takeIn, hload]
    exact indexed_registerAll h es

theorem indexed_gather (intakes : List Intake) : (gather intakes).Indexed := by
  induction intakes using List.reverseRecOn with
  | nil => exact indexed_empty
  | append_singleton intakes i ih =>
    rw [gather_concat]
    exact indexed_takeIn ih i

/-- Only a document brings new entities. -/
theorem mem_of_mem_takeIn (h : c.Indexed) (he : e ∈ (c.takeIn i).entities) :
    e ∈ c.entities ∨ ∃ source text d es, i = .load source text ∧
      Document.Holds source text d es ∧ e ∈ es := by
  cases i with
  | exclude spaces =>
    rw [takeIn, entities_exclude (nodup_names h)] at he
    exact .inl (List.mem_filter.mp he).1
  | load source text =>
    obtain ⟨es, hes, hload⟩ := exists_load_eq_registerAll source text
    rw [takeIn, hload] at he
    rcases (mem_registerAll_iff h).mp he with hlast | ⟨hold, -⟩
    · have hmem : e ∈ es := (List.mem_filter.mp (List.mem_of_getLast? hlast)).1
      rcases hes with rfl | ⟨d, hd⟩
      · contradiction
      · exact .inr ⟨source, text, d, es, rfl, hd, hmem⟩
    · exact .inl hold

end Catalog

namespace Document

/-- Among `intakes` a text is loaded that holds the document `d`, which has its entity `w` registered
as `e`. -/
structure Brings (intakes : List Intake) (d : Document) (w e : Entity) : Prop where
  loaded : ∃ source text es, Intake.load source text ∈ intakes ∧ Holds source text d es
  member : w ∈ d.entities
  completed : d.Completes w e

theorem Holds.exists_completes (hd : Holds source text d es) (he : e ∈ es) :
    ∃ w ∈ d.entities, d.Completes w e := by
  obtain ⟨n, hn, rfl⟩ := List.mem_iff_getElem.mp he
  have hlen := hd.completed.length_eq
  exact ⟨d.entities[n], List.getElem_mem _, hd.completed.get (hlen ▸ hn) hn⟩

namespace Brings

theorem mono (h : Brings intakes d w e) (hsub : intakes ⊆ more) : Brings more d w e := by
  obtain ⟨source, text, es, hmem, hd⟩ := h.loaded
  exact ⟨⟨source, text, es, hsub hmem, hd⟩, h.member, h.completed⟩

theorem not_blank_name (h : Brings intakes d w e) : ¬ Text.Blank e.name := by
  obtain ⟨source, text, es, -, hd⟩ := h.loaded
  rw [h.completed.name, ← Text.trim_eq_empty_iff]
  exact hd.named w h.member

/-- An entity without a namespace takes the trimmed one of its document, which is not blank. -/
theorem blank_ns_iff (h : Brings intakes d w e) :
    Text.Blank e.ns ↔ w.ns ≠ "" ∧ Text.Blank w.ns := by
  obtain ⟨source, text, es, -, hd⟩ := h.loaded
  rw [h.completed.ns]
  by_cases hns : w.ns = ""
  · have hgiven : ¬ Text.Blank (Text.trim d.ns) := by
      rw [← Text.trim_eq_empty_iff, Text.trim_trim]
      exact hd.given
    simp [hns, hgiven]
  · simp [hns]

end Brings

end Document

namespace Catalog

theorem exists_brings (he : e ∈ (gather intakes).entities) :
    ∃ d w, Document.Brings intakes d w e := by
  induction intakes using List.reverseRecOn with
  | nil => contradiction
  | append_singleton intakes i ih =>
    rw [gather_concat] at he
    have hstep := mem_of_mem_takeIn (indexed_gather intakes) he
    obtain hold | ⟨source, text, d, es, rfl, hd, hes⟩ := hstep
    · obtain ⟨d, w, h⟩ := ih hold
      exact ⟨d, w, h.mono (List.subset_append_left intakes _)⟩
    · obtain ⟨w, hw, hcompleted⟩ := hd.exists_completes hes
      exact ⟨d, w, ⟨source, text, es, by simp, hd⟩, hw, hcompleted⟩

/-- Whatever is loaded and excluded, no name is blank, and a namespace is blank exactly if some
document that was loaded gives the entity that very namespace, blank but not empty. A document that
does is taken in like any other: of all that it has registered, the last of each qualified name is
there afterwards. -/
theorem gather_blank_iff (intakes : List Intake) :
    (∀ e ∈ (gather intakes).entities, ¬ Text.Blank e.name ∧
      (Text.Blank e.ns ↔
        ∃ d w, Document.Brings intakes d w e ∧ w.ns ≠ "" ∧ Text.Blank w.ns)) ∧
    ∀ source text d es, Document.Holds source text d es → ∀ e,
      (es.filter (·.qualifiedName = e.qualifiedName)).getLast? = some e →
        e ∈ (gather (intakes ++ [.load source text])).entities := by
  constructor
  · intro e he
    obtain ⟨d, w, hbrings⟩ := exists_brings he
    refine ⟨hbrings.not_blank_name, ?_, ?_⟩
    · intro hblank
      exact ⟨d, w, hbrings, hbrings.blank_ns_iff.mp hblank⟩
    · rintro ⟨d', w', hbrings', hwritten⟩
      exact hbrings'.blank_ns_iff.mpr hwritten
  · intro source text d es hd e hlast
    rw [gather_concat, takeIn, load_of_holds _ hd]
    exact (mem_registerAll_iff (indexed_gather intakes)).mpr (.inl hlast)

def blankText : String :=
  "\x7b\"namespace\": \"shop\", \"auto_id\": false, " ++
    "\"entities\": [\x7b\"name\": \"Cart\", \"namespace\": \" \"\x7d]\x7d"

/-- The document has a namespace, but its entity has one of its own, which is a space. -/
theorem gather_blank_ns :
    (gather [.load .models blankText]).entities = [{ name := "Cart", ns := " " }] ∧
      ¬ ∀ e ∈ (gather [.load .models blankText]).entities,
        ¬ Text.Blank e.name ∧ ¬ Text.Blank e.ns := by
  decide +kernel

end Catalog

end SchemaInterfaces.Schema
