import SchemaInterfaces.Proofs.Paths
import SchemaInterfaces.Proofs.Rendering
import SchemaInterfaces.Proofs.Run

/-! Links between the files of one run: an import leads to the file that declares what it binds. -/
namespace SchemaInterfaces.TypeScript
open Schema Disk

/-- A relation of `e` leads to `r` by namespace and exported name, where an empty namespace and a
blank exported name count as absent. -/
structure LeadsTo (e : Entity) (rel : Relation) (r : Entity) : Prop where
  ns : r.ns = (rel.ns.filter (· ≠ "")).getD e.ns
  exported : r.exportedName = ((rel.exportedName.map Text.trim).filter (· ≠ "")).getD
    (e.source.exportedName (Text.trim rel.entity))

/-- The file of `e` imports `r` from the file where `r` belongs, by a path that is relative to its
own folder. -/
def Imports (infer : Inferrer) (e r : Entity) (text : String) : Prop :=
  ∃ i ∈ importsOf infer e, i.name = r.exportedName ∧
    HasLine text ("import \x7b " ++ r.exportedName ++ " \x7d from \"" ++ i.path ++ "\";") ∧
    ∃ dir, (targetPath e).parent? = some dir ∧ dir.resolve ⟨i.path⟩ = targetPath r

/-- What stands where the file of an entity belongs: a text that declares it. -/
def Declared (m : Memory) (r : Entity) : Prop :=
  ∃ text, m.get? (targetPath r) = some text ∧
    HasLine text ("export interface " ++ r.name ++ " \x7b")

variable {infer : Inferrer} {c : Catalog} {es : List Entity} {e r : Entity} {f : Field}
  {rel : Relation} {t : Target} {u : Interface} {b : Fallbacks} {m : Memory}

theorem bind_given? (o : Option String) : o.bind given? = (o.map Text.trim).filter (· ≠ "") := by
  cases o with
  | none => rfl
  | some s => by_cases hs : Text.trim s = "" <;> simp [given?, hs, Option.filter]

theorem LeadsTo.target_eq (h : LeadsTo e rel r) (ht : target? e rel = some t) :
    ⟨r.ns, r.exportedName⟩ = t := by
  rw [h.ns, h.exported, ← bind_given?]
  by_cases hb : Text.trim rel.entity = ""
  · simp [target?, given?, hb] at ht
  · simpa [target?, given?, hb] using ht

theorem name_ne_of_mem_importsOf {i : Import} (h : i ∈ importsOf infer e) :
    i.name ≠ e.exportedName := by
  obtain ⟨f, _, hi⟩ := List.mem_filterMap.mp h
  obtain ⟨_, _, t, _, hne, rfl⟩ := importOf?_eq_some_iff.mp hi
  exact hne

/-- Entities whose namespaces and names each name one folder or file, no name twice. -/
structure Placed (es : List Entity) : Prop where
  ns : ∀ e ∈ es, Segment e.ns
  name : ∀ e ∈ es, Segment e.name
  nodup : (es.map (·.name)).Nodup

theorem Placed.eq_of_name (h : Placed es) (he : e ∈ es) (hr : r ∈ es) (hn : e.name = r.name) :
    e = r :=
  List.inj_on_of_nodup_map h.nodup he hr hn

theorem Placed.parts_ne (h : Placed es) (he : e ∈ es) (hr : r ∈ es) (hn : e.name ≠ r.name) :
    (targetPath e).parts ≠ (targetPath r).parts := by
  rw [parts_targetPath (h.ns e he).toOrdinary (h.name e he).toOrdinary,
    parts_targetPath (h.ns r hr).toOrdinary (h.name r hr).toOrdinary]
  intro hp
  have hfile : e.name ++ ".ts" = r.name ++ ".ts" := by simp_all
  exact hn ((String.append_left_inj _).mp hfile)

theorem Placed.nodup_files (h : Placed es) : ((files infer es).map (·.path.parts)).Nodup := by
  apply TypeScript.nodup_files
  rw [List.Nodup, List.pairwise_map]
  refine (List.pairwise_map.mp h.nodup).imp_of_mem ?_
  intro e r he hr hn
  exact h.parts_ne he hr hn

/-- No file of the run is overwritten by another. -/
theorem Placed.get?_file (h : Placed es) (he : e ∈ es)
    (hu : Interface.ofEntity infer e = .ok (u, b)) :
    (m.putAll (files infer es)).get? (targetPath e) = some u.render :=
  get?_putAll_file h.nodup_files he hu

theorem Placed.ofEntity_of_written (h : Placed es) (he : e ∈ es)
    (hw : targetPath e ∈ (fullReport infer es).written) :
    ∃ u b, Interface.ofEntity infer e = .ok (u, b) := by
  obtain ⟨r, hr, ⟨u, b, hu⟩, hpath⟩ := mem_written_iff.mp hw
  have hn : r.name = e.name := by
    by_contra hn
    exact h.parts_ne hr he hn (congrArg Path.parts hpath)
  exact ⟨u, b, h.eq_of_name hr he hn ▸ hu⟩

theorem Placed.imports_of_leadsTo (h : Placed es) (he : e ∈ es) (hr : r ∈ es) (hne : r ≠ e)
    (hu : Interface.ofEntity infer e = .ok (u, b)) (hf : f ∈ e.fields) (hk : f.kind.isRelation)
    (hc : f.choices = []) (hrel : f.relation = some rel) (hl : LeadsTo e rel r) :
    Imports infer e r u.render := by
  have htyped := (Interface.adds_of_ofEntity hu).typed f hf
  obtain ⟨t, ht⟩ := (fieldType_relation infer hk hc).mp htyped
  have htarget : target? e rel = some t := by simpa [hrel] using ht
  obtain rfl := hl.target_eq htarget
  have hname : r.exportedName ≠ e.exportedName := by
    intro hn
    exact hne (h.eq_of_name hr he hn)
  have hi : importOf? infer e f = some ⟨r.exportedName, importPath r.exportedName r.ns e.ns⟩ :=
    importOf?_eq_some_iff.mpr ⟨hk, hc, _, ht, hname, rfl⟩
  have hmem := List.mem_filterMap.mpr ⟨f, hf, hi⟩
  refine ⟨_, hmem, rfl, ?_, ⟨e.ns⟩, ?_, ?_⟩
  · exact Interface.hasLine_import ((Interface.mem_imports_iff hu).mpr ⟨_, hmem, rfl⟩)
  · exact parent?_targetPath (h.ns e he).toOrdinary (h.name e he).toOrdinary
  · exact resolve_importPath_eq_targetPath (h.ns e he).toOrdinary (h.ns r hr) (h.name r hr)

theorem Placed.skipped_or_declared (h : Placed es) (hr : r ∈ es) :
    (∃ cause, Interface.ofEntity infer r = .error cause ∧
      ⟨r.qualifiedName, cause⟩ ∈ (fullReport infer es).skipped) ∨
      Declared (m.putAll (files infer es)) r := by
  cases hu : Interface.ofEntity infer r with
  | error cause =>
    refine Or.inl ⟨cause, rfl, List.mem_filterMap.mpr ⟨r, hr, ?_⟩⟩
    simp [skip?, hu]
  | ok w =>
    obtain ⟨u, b⟩ := w
    have hname : u.name = r.name := (Interface.adds_of_ofEntity hu).name
    refine Or.inr ⟨u.render, h.get?_file hr hu, ?_⟩
    rw [← hname]
    exact Interface.hasLine_header u

/-- In a memory that took a whole run, a relation of a written entity to another one shows in its
file as an import that leads to the place of that other entity, where a file declares it unless it
was skipped. An entity that refers to itself imports nothing of its own name. -/
theorem links_of_exportAll (infer : Inferrer) (c : Catalog) (m : Memory) (h : Placed c.entities) :
    ∃ report memory, exportAll Memory.output infer c m = (.ok report, memory) ∧
      ∀ e ∈ c.entities, targetPath e ∈ report.written →
        ∃ u b, Interface.ofEntity infer e = .ok (u, b) ∧
          memory.get? (targetPath e) = some u.render ∧
          (∀ line, line ∈ u.imports ↔ ∃ i ∈ importsOf infer e,
            "import \x7b " ++ i.name ++ " \x7d from \"" ++ i.path ++ "\";" = line) ∧
          ∀ f ∈ e.fields, f.kind.isRelation → f.choices = [] → ∀ rel, f.relation = some rel →
            ∀ r ∈ c.entities, LeadsTo e rel r →
              ((r = e ∧ ∀ i ∈ importsOf infer e, i.name ≠ r.exportedName) ∨
                Imports infer e r u.render) ∧
              ((∃ cause, Interface.ofEntity infer r = .error cause ∧
                  ⟨r.qualifiedName, cause⟩ ∈ report.skipped) ∨ Declared memory r) := by
  refine ⟨_, _, exportAll_memory infer c m, ?_⟩
  intro e he hw
  obtain ⟨u, b, hu⟩ := h.ofEntity_of_written he hw
  refine ⟨u, b, hu, h.get?_file he hu, fun line => Interface.mem_imports_iff hu, ?_⟩
  intro f hf hk hc rel hrel r hr hl
  refine ⟨?_, h.skipped_or_declared hr⟩
  by_cases hne : r = e
  · exact Or.inl ⟨hne, fun i hi => hne ▸ name_ne_of_mem_importsOf hi⟩
  · exact Or.inr (h.imports_of_leadsTo he hr hne hu hf hk hc hrel hl)

def customer : Entity := { name := "Customer", ns := "accounts" }

def itsCustomer : Relation := { entity := " Customer ", ns := some "accounts" }

def itsCorrection : Relation := { entity := "Order", ns := some "" }

/-- An order refers to its customer, in another folder, and to the order that corrects it. -/
def order : Entity where
  name := "Order"
  ns := "shop"
  fields := [.toOne "customer" itsCustomer, .toOne "correction" itsCorrection]

theorem links_of_orders :
    Placed (Catalog.ofList [customer, order]).entities ∧
      ∃ report memory,
        exportAll Memory.output heuristic (.ofList [customer, order]) {} = (.ok report, memory) ∧
        (∃ text, memory.get? (targetPath order) = some text ∧
          Imports heuristic order customer text ∧
          HasLine text "import \x7b Customer \x7d from \"../accounts/Customer.ts\";") ∧
        (∀ i ∈ importsOf heuristic order, i.name ≠ "Order") ∧ Declared memory customer := by
  have hentities : (Catalog.ofList [customer, order]).entities = [customer, order] := by decide
  have hplaced : Placed (Catalog.ofList [customer, order]).entities := by
    rw [hentities]
    exact ⟨by decide, by decide, by decide⟩
  obtain ⟨report, memory, hrun, hlinks⟩ :=
    links_of_exportAll heuristic (.ofList [customer, order]) {} hplaced
  have hreport : report = fullReport heuristic [customer, order] := by
    rw [exportAll_memory, hentities] at hrun
    simpa [eq_comm] using congrArg Prod.fst hrun
  have hwritten : targetPath order ∈ report.written := by
    rw [hreport]
    decide
  rw [hentities] at hlinks
  obtain ⟨u, b, hu, hget, _, hfields⟩ := hlinks order (by decide) hwritten
  obtain ⟨hcustomer, hthere⟩ := hfields (.toOne "customer" itsCustomer) (by decide) rfl
    rfl itsCustomer rfl customer (by decide) ⟨by decide, by decide⟩
  obtain ⟨hcorrection, -⟩ := hfields (.toOne "correction" itsCorrection) (by decide) rfl
    rfl itsCorrection rfl order (by decide) ⟨by decide, by decide⟩
  have himports := hcustomer.resolve_left fun h => absurd h.1 (by decide)
  refine ⟨hplaced, report, memory, hrun, ⟨u.render, hget, himports, ?_⟩, ?_, ?_⟩
  · obtain ⟨i, hi, -, hline, -⟩ := himports
    have hpath : ∀ i ∈ importsOf heuristic order, i.path = "../accounts/Customer.ts" := by
      decide +kernel
    rw [hpath i hi] at hline
    exact hline
  · rcases hcorrection with ⟨-, hnone⟩ | ⟨i, hi, hname, -⟩
    · exact hnone
    · exact (name_ne_of_mem_importsOf hi hname).elim
  · apply hthere.resolve_left
    rintro ⟨cause, herror, -⟩
    have hok : Interface.ofEntity heuristic customer = .ok ({ name := "Customer" }, {}) := rfl
    simp [hok] at herror

end SchemaInterfaces.TypeScript
