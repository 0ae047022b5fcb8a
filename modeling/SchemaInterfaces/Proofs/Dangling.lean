import SchemaInterfaces.Proofs.Places
import SchemaInterfaces.Proofs.SelfReference

/-! Dangling imports: whether a run writes the files that its imports lead to. Which entities are
skipped is a matter of their own fields, whether they are imported a matter of the others. -/
namespace SchemaInterfaces.TypeScript
open Schema Disk

/-- Entities whose namespaces and names each name one folder or file, and whose relations lead to
one another as far as they lead anywhere. -/
structure Closed (es : List Entity) : Prop where
  ns : ∀ e ∈ es, Segment e.ns
  name : ∀ e ∈ es, Segment e.name
  leads : ∀ e ∈ es, ∀ f ∈ e.fields, f.kind.isRelation → ∀ rel, f.relation = some rel →
    Text.trim rel.entity ≠ "" → ∃ r ∈ es, LeadsTo e rel r

/-- Every relation of an entity says which entity it leads to, unless it has choices. -/
def Complete (e : Entity) : Prop :=
  ∀ f ∈ e.fields, f.kind.isRelation → f.choices = [] →
    ∃ rel, f.relation = some rel ∧ Text.trim rel.entity ≠ ""

/-- A relation of `e` without choices leads to `r`, which has another exported name. -/
def Needs (e r : Entity) : Prop :=
  r.exportedName ≠ e.exportedName ∧ ∃ f ∈ e.fields, f.kind.isRelation ∧ f.choices = [] ∧
    ∃ rel, f.relation = some rel ∧ Text.trim rel.entity ≠ "" ∧ LeadsTo e rel r

/-- The import of `r` in the file of `e`. -/
def linkTo (e r : Entity) : Import := ⟨r.exportedName, importPath r.exportedName r.ns e.ns⟩

/-- From the folder of the file of `e`, an import leads to `p`. -/
def LeadsFrom (e : Entity) (i : Import) (p : Path) : Prop :=
  ∃ dir, (targetPath e).parent? = some dir ∧ dir.resolve ⟨i.path⟩ = p

variable {infer : Inferrer} {c : Catalog} {es : List Entity} {e r : Entity} {f : Field}
  {i : Import} {p : Path} {u : Interface} {b : Fallbacks} {m : Memory}

theorem exists_target_iff : (∃ t, f.relation.bind (target? e) = some t) ↔
    ∃ rel, f.relation = some rel ∧ Text.trim rel.entity ≠ "" := by
  constructor
  · rintro ⟨t, ht⟩
    obtain ⟨rel, hrel, ht⟩ := Option.bind_eq_some_iff.mp ht
    refine ⟨rel, hrel, ?_⟩
    intro hblank
    simp [target?, given?, hblank] at ht
  · rintro ⟨rel, hrel, hgiven⟩
    exact ⟨_, by rw [hrel, Option.bind_some, target?_eq_some hgiven]⟩

/-- The entities that a run does not skip are the complete ones. -/
theorem exists_ofEntity_iff_complete :
    (∃ w, Interface.ofEntity infer e = .ok w) ↔ Complete e := by
  rw [Interface.exists_ofEntity_iff]
  constructor
  · intro h f hf hk hc
    exact exists_target_iff.mp ((fieldType_relation infer hk hc).mp (h f hf))
  · intro h f hf
    by_cases hrel : f.kind.isRelation ∧ f.choices = []
    · apply (fieldType_relation infer hrel.1 hrel.2).mpr
      exact exists_target_iff.mpr (h f hf hrel.1 hrel.2)
    · exact fieldType_of_not_relation infer hrel

theorem Complete.ofEntity (h : Complete e) (infer : Inferrer) :
    ∃ u b, Interface.ofEntity infer e = .ok (u, b) := by
  obtain ⟨⟨u, b⟩, hu⟩ := exists_ofEntity_iff_complete.mpr h
  exact ⟨u, b, hu⟩

theorem mem_written_iff_complete : p ∈ (fullReport infer es).written ↔
    ∃ e ∈ es, Complete e ∧ targetPath e = p := by
  rw [mem_written_iff]
  constructor
  · rintro ⟨e, he, ⟨u, b, hu⟩, hp⟩
    exact ⟨e, he, exists_ofEntity_iff_complete.mp ⟨_, hu⟩, hp⟩
  · rintro ⟨e, he, hcomplete, hp⟩
    exact ⟨e, he, hcomplete.ofEntity infer, hp⟩

namespace Closed

/-- The imports of an entity are those of the entities that it needs. -/
theorem mem_importsOf_iff (h : Closed es) (he : e ∈ es) :
    i ∈ importsOf infer e ↔ ∃ r ∈ es, Needs e r ∧ linkTo e r = i := by
  rw [importsOf, List.mem_filterMap]
  simp only [importOf?_eq_some_iff]
  constructor
  · rintro ⟨f, hf, hk, hc, t, ht, hother, rfl⟩
    obtain ⟨rel, hrel, hgiven⟩ := exists_target_iff.mp ⟨t, ht⟩
    obtain ⟨r, hr, hl⟩ := h.leads e he f hf hk rel hrel hgiven
    rw [hrel, Option.bind_some] at ht
    obtain rfl := hl.target_eq ht
    exact ⟨r, hr, ⟨hother, f, hf, hk, hc, rel, hrel, hgiven, hl⟩, rfl⟩
  · rintro ⟨r, hr, ⟨hother, f, hf, hk, hc, rel, hrel, hgiven, hl⟩, rfl⟩
    have ht : target? e rel = some ⟨rel.spaceFrom e, rel.exportedFrom e⟩ :=
      target?_eq_some hgiven
    rw [← hl.target_eq ht] at ht
    exact ⟨f, hf, hk, hc, _, by rw [hrel, Option.bind_some, ht], hother, rfl⟩

/-- The import of an entity leads to where its file belongs. -/
theorem leadsFrom_iff (h : Closed es) (he : e ∈ es) (hr : r ∈ es) :
    LeadsFrom e (linkTo e r) p ↔ targetPath r = p := by
  have hto : (Disk.Path.mk e.ns).resolve ⟨(linkTo e r).path⟩ = targetPath r :=
    resolve_importPath_eq_targetPath (h.ns e he).toOrdinary (h.ns r hr) (h.name r hr)
  have hfrom : (targetPath e).parent? = some ⟨e.ns⟩ :=
    parent?_targetPath (h.ns e he).toOrdinary (h.name e he).toOrdinary
  rw [LeadsFrom, hfrom, ← hto]
  simp

theorem eq_of_ns_parts (h : Closed es) (he : e ∈ es) (hr : r ∈ es)
    (hparts : (Disk.Path.mk e.ns).parts = (Disk.Path.mk r.ns).parts) : e.ns = r.ns :=
  Path.eq_of_parts (h.ns e he).no_slash (h.ns r hr).no_slash hparts

/-- Entities under different qualified names have different places. -/
theorem eq_of_targetPath (h : Closed c.entities) (hc : c.names.Nodup) (he : e ∈ c.entities)
    (hr : r ∈ c.entities) (hp : targetPath e = targetPath r) : e = r := by
  obtain ⟨hns, hname⟩ := eq_of_parts_targetPath (h.name e he).no_slash (h.name r hr).no_slash
    (congrArg Path.parts hp)
  apply List.inj_on_of_nodup_map hc he hr
  rw [Entity.qualifiedName, Entity.qualifiedName, h.eq_of_ns_parts he hr hns, hname]

theorem get?_file (h : Closed c.entities) (hc : c.names.Nodup) (he : e ∈ c.entities)
    (hu : Interface.ofEntity infer e = .ok (u, b)) :
    (m.putAll (files infer c.entities)).get? (targetPath e) = some u.render := by
  have hnodup : ((files infer c.entities).map (·.path.parts)).Nodup :=
    nodup_places hc (fun e he => (h.name e he).no_slash) fun e he r hr => h.eq_of_ns_parts he hr
  exact get?_putAll_file hnodup he hu

theorem targetPath_mem_written_iff (h : Closed c.entities) (hc : c.names.Nodup)
    (he : e ∈ c.entities) :
    targetPath e ∈ (fullReport infer c.entities).written ↔ Complete e := by
  rw [mem_written_iff_complete]
  constructor
  · rintro ⟨x, hx, hcomplete, hp⟩
    obtain rfl := h.eq_of_targetPath hc hx he hp
    exact hcomplete
  · intro hcomplete
    exact ⟨e, he, hcomplete, rfl⟩

theorem leads_to_written_iff (h : Closed c.entities) (hc : c.names.Nodup) (he : e ∈ c.entities)
    (hr : r ∈ c.entities) :
    (∃ p ∈ (fullReport infer c.entities).written, LeadsFrom e (linkTo e r) p) ↔ Complete r := by
  simp only [h.leadsFrom_iff he hr, exists_eq_right']
  exact h.targetPath_mem_written_iff hc hr

/-- No import dangles exactly if complete entities need complete ones only. -/
theorem no_dangling_iff (h : Closed c.entities) (hc : c.names.Nodup) :
    (∀ e ∈ c.entities, targetPath e ∈ (fullReport infer c.entities).written →
      ∀ i ∈ importsOf infer e, ∃ p ∈ (fullReport infer c.entities).written, LeadsFrom e i p) ↔
      ∀ e ∈ c.entities, Complete e → ∀ r ∈ c.entities, Needs e r → Complete r := by
  constructor
  · intro hall e he hcomplete r hr hneeds
    have hw : targetPath e ∈ (fullReport infer c.entities).written :=
      (h.targetPath_mem_written_iff hc he).mpr hcomplete
    have hi : linkTo e r ∈ importsOf infer e :=
      (h.mem_importsOf_iff he).mpr ⟨r, hr, hneeds, rfl⟩
    exact (h.leads_to_written_iff hc he hr).mp (hall e he hw _ hi)
  · intro hall e he hw i hi
    obtain ⟨r, hr, hneeds, rfl⟩ := (h.mem_importsOf_iff he).mp hi
    have hcomplete := (h.targetPath_mem_written_iff hc he).mp hw
    exact (h.leads_to_written_iff hc he hr).mpr (hall e he hcomplete r hr hneeds)

end Closed

/-- Starting from collected entities, after any changes: a run into a memory writes the complete
entities and leaves the text of each at its place, with the imports that its fields need. Each of
these leads to where the file of an entity of the catalog belongs, and that file is written in the
same run exactly if that entity is complete. So no import dangles exactly if no complete entity
needs an incomplete one. -/
theorem imports_resolve_iff (infer : Inferrer) (es : List Entity) (changes : List Change)
    (m : Memory) (h : Closed (changes.foldl Catalog.apply (.ofList es)).entities) :
    let c := changes.foldl Catalog.apply (.ofList es)
    ∃ report memory, exportAll Memory.output infer c m = (.ok report, memory) ∧
      (∀ p, p ∈ report.written ↔ ∃ e ∈ c.entities, Complete e ∧ targetPath e = p) ∧
      (∀ e ∈ c.entities, Complete e → ∃ u b, Interface.ofEntity infer e = .ok (u, b) ∧
        memory.get? (targetPath e) = some u.render ∧
        ∀ line, line ∈ u.imports ↔ ∃ i ∈ importsOf infer e, i.render = line) ∧
      (∀ e ∈ c.entities, ∀ i ∈ importsOf infer e, ∃ r ∈ c.entities, Needs e r ∧
        i.name = r.exportedName ∧ LeadsFrom e i (targetPath r) ∧
        ((∃ p ∈ report.written, LeadsFrom e i p) ↔ Complete r)) ∧
      ((∀ e ∈ c.entities, targetPath e ∈ report.written →
          ∀ i ∈ importsOf infer e, ∃ p ∈ report.written, LeadsFrom e i p) ↔
        ∀ e ∈ c.entities, Complete e → ∀ r ∈ c.entities, Needs e r → Complete r) := by
  intro c
  have hc : c.names.Nodup :=
    Catalog.nodup_names (Catalog.entries_foldl_apply (Catalog.indexed_ofList es) changes).1
  refine ⟨_, _, exportAll_memory infer c m, fun p => mem_written_iff_complete, ?_, ?_,
    h.no_dangling_iff hc⟩
  · intro e he hcomplete
    obtain ⟨u, b, hu⟩ := hcomplete.ofEntity infer
    exact ⟨u, b, hu, h.get?_file hc he hu, fun line => Interface.mem_imports_iff hu⟩
  · intro e he i hi
    obtain ⟨r, hr, hneeds, rfl⟩ := (h.mem_importsOf_iff he).mp hi
    exact ⟨r, hr, hneeds, rfl, (h.leadsFrom_iff he hr).mpr rfl, h.leads_to_written_iff hc he hr⟩

/-- A sale has a customer, in another folder. -/
def sale : Entity where
  name := "Sale"
  ns := "shop"
  fields := [.toOne "customer" { entity := "Customer", ns := some "accounts" }]

/-- A customer whose plan leads nowhere yet. -/
def draft : Entity where
  name := "Customer"
  ns := "accounts"
  fields := [{ name := "plan", kind := .toOne }]

theorem closed_sale (hns : r.ns = "accounts") (hname : r.name = "Customer")
    (hnone : ∀ f ∈ r.fields, f.relation = none) : Closed [r, sale] where
  ns := by simp [hns, sale, show Segment "accounts" by decide, show Segment "shop" by decide]
  name := by simp [hname, sale, show Segment "Customer" by decide, show Segment "Sale" by decide]
  leads := by
    intro e he f hf hk rel hrel hgiven
    rcases List.mem_pair.mp he with rfl | rfl
    · simp [hnone f hf] at hrel
    · obtain rfl : f = .toOne "customer" { entity := "Customer", ns := some "accounts" } :=
        List.mem_singleton.mp hf
      obtain rfl := Option.some.inj hrel
      exact ⟨r, List.mem_cons_self, ⟨hns.trans (by decide), hname.trans (by decide)⟩⟩

theorem imports_resolve_sale :
    let c := Catalog.apply (.ofList [draft, sale]) (.register customer)
    Closed c.entities ∧ importsOf heuristic sale = [⟨"Customer", "../accounts/Customer.ts"⟩] ∧
      ∃ report memory, exportAll Memory.output heuristic c {} = (.ok report, memory) ∧
        ∀ e ∈ c.entities, targetPath e ∈ report.written →
          ∀ i ∈ importsOf heuristic e, ∃ p ∈ report.written, LeadsFrom e i p := by
  intro c
  have hentities : c.entities = [customer, sale] := by decide +kernel
  have hclosed : Closed c.entities := hentities ▸ closed_sale rfl rfl (by simp [customer])
  obtain ⟨report, memory, hrun, -, -, -, hiff⟩ :=
    imports_resolve_iff heuristic [draft, sale] [.register customer] {} hclosed
  refine ⟨hclosed, by decide +kernel, report, memory, hrun, hiff.mpr ?_⟩
  intro e _ _ r hr _
  have hmem : r ∈ [customer, sale] := hentities ▸ hr
  rcases List.mem_pair.mp hmem with rfl | rfl
  · simp [Complete, customer]
  · intro f hf _ _
    obtain rfl := List.mem_singleton.mp hf
    exact ⟨_, rfl, by decide⟩

/-- A customer that is skipped is still imported: the file of the sale is written, and the import in
it leads to a file that is not. -/
theorem imports_dangle_sale :
    let c := Catalog.ofList [draft, sale]
    Closed c.entities ∧
      ∃ report memory, exportAll Memory.output heuristic c {} = (.ok report, memory) ∧
        report.written = [targetPath sale] ∧
        ∃ i ∈ importsOf heuristic sale, LeadsFrom sale i (targetPath draft) ∧
          (∀ p ∈ report.written, ¬ LeadsFrom sale i p) ∧ memory.get? (targetPath draft) = none := by
  intro c
  have hentities : c.entities = [draft, sale] := by decide +kernel
  have hclosed : Closed c.entities := hentities ▸ closed_sale rfl rfl (by simp [draft])
  refine ⟨hclosed, _, _, exportAll_memory heuristic c {}, ?_⟩
  rw [hentities] at hclosed ⊢
  have hwritten : (fullReport heuristic [draft, sale]).written = [targetPath sale] := by
    decide +kernel
  refine ⟨hwritten, linkTo sale draft, by decide +kernel, ?_, ?_, by decide +kernel⟩
  · exact (hclosed.leadsFrom_iff (by simp) (by simp)).mpr rfl
  · intro p hp hleads
    rw [hwritten, List.mem_singleton] at hp
    have hdraft := (hclosed.leadsFrom_iff (by simp) (by simp)).mp hleads
    exact absurd (hdraft.trans hp) (by decide +kernel)

end SchemaInterfaces.TypeScript
