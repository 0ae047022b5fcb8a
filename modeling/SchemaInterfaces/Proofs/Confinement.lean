import SchemaInterfaces.Schema.Document
import SchemaInterfaces.Proofs.DiskRun
import SchemaInterfaces.Proofs.Places

/-! Which locations an export may change, and which namespaces keep it below the output folder. -/
namespace SchemaInterfaces.TypeScript
open Schema Disk

variable {infer : Inferrer} {es : List Entity} {e : Entity} {call : Call} {root : Path}
  {here l : Location} {content : Content}

theorem ordinary_of_no_slash (h : '/' ∉ e.name.toList) : Ordinary (e.exportedName ++ ".ts") where
  ne_empty := file_ne _ (by decide)
  no_slash := by simpa [Entity.exportedName] using h
  ne_here := file_ne _ (by decide)
  ne_up := file_ne _ (by decide)

/-- Without a slash in the name of an entity, its namespace alone decides whether its file lies
below the output folder. -/
theorem inside_targetPath (h : '/' ∉ e.name.toList) :
    (targetPath e).Inside ↔ (Disk.Path.mk e.ns).Inside :=
  Path.inside_join_name _ (ordinary_of_no_slash h)

theorem exists_of_mem_files (h : call ∈ files infer es) : ∃ e ∈ es, targetPath e = call.path := by
  obtain ⟨e, he, hcall⟩ := List.mem_filterMap.mp h
  obtain ⟨u, b, -, rfl⟩ := file?_eq_some_iff.mp hcall
  exact ⟨e, he, rfl⟩

theorem OnTheWay.exists_entity (h : OnTheWay root here (files infer es) l) :
    ∃ e ∈ es, (root.join (targetPath e)).Passes here l := by
  obtain ⟨call, hcall, hl⟩ := h
  obtain ⟨e, he, hpath⟩ := exists_of_mem_files hcall
  exact ⟨e, he, hpath ▸ hl⟩

theorem Handed.exists_entity (h : Handed root here (files infer es) l content) :
    ∃ e ∈ es, l = (root.join (targetPath e)).locationFrom here ∧ ∃ text, content = .text text := by
  obtain ⟨call, hcall, hl, hcontent⟩ := h
  obtain ⟨e, he, hpath⟩ := exists_of_mem_files hcall
  exact ⟨e, he, hpath ▸ hl, call.text, hcontent⟩

/-- A run makes missing folders on the way to files of entities and writes some of these files, all
of them if it ends well, and changes nothing else. Seen from every folder, an entity belongs below
it exactly if its path is inside, and if the paths of all entities are, a run changes nothing
outside the output folder but for missing folders on the way there. Without slashes in the name of
an entity that is a matter of the namespace, and without slashes in that, only two points lead
out. -/
theorem exportAll_confined (root : Path) (infer : Inferrer) (c : Catalog) (t : Tree) :
    ∃ result t', exportAll (diskOutput root) infer c t = (result, t') ∧
      (∀ l, t'.entry? l ≠ t.entry? l → ∃ e ∈ c.entities,
        (root.join (targetPath e)).Passes t.here l ∧
            t.entry? l = none ∧ t'.entry? l = some .folder ∨
          l = (root.join (targetPath e)).locationFrom t.here ∧
            ∃ text, t'.entry? l = some (.file (.text text))) ∧
      (∀ report, result = .ok report → report = fullReport infer c.entities ∧
        ∀ p ∈ report.written, ∃ content, t'.find (root.join p) =
          .ok ((root.join p).locationFrom t.here, .file content)) ∧
      (∀ e : Entity, (targetPath e).Inside ↔ ∀ folder : Path,
        folder.locationFrom t.here <+: (folder.join (targetPath e)).locationFrom t.here) ∧
      ((∀ e ∈ c.entities, (targetPath e).Inside) → ∀ l, t'.entry? l ≠ t.entry? l →
        root.locationFrom t.here <+: l ∨
          root.Passes t.here l ∧ t.entry? l = none ∧ t'.entry? l = some .folder) ∧
      (∀ e : Entity, '/' ∉ e.name.toList →
        ((targetPath e).Inside ↔ (Disk.Path.mk e.ns).Inside)) ∧
      ∀ s : String, '/' ∉ s.toList → ((Disk.Path.mk s).Inside ↔ s ≠ "..") := by
  have hgrows := grows_exportAll root infer c t
  cases hrun : exportAll (diskOutput root) infer c t with
  | mk result t' =>
    rw [hrun] at hgrows
    refine ⟨result, t', rfl, ?_, ?_, ?_, ?_, fun e => inside_targetPath, ?_⟩
    · intro l hl
      rcases hgrows.of_ne hl with ⟨hway, hnone, hfolder⟩ | ⟨content, hhanded, hfile⟩
      · obtain ⟨e, he, hpasses⟩ := hway.exists_entity
        exact ⟨e, he, Or.inl ⟨hpasses, hnone, hfolder⟩⟩
      · obtain ⟨e, he, hlocation, text, rfl⟩ := hhanded.exists_entity
        exact ⟨e, he, Or.inr ⟨hlocation, text, hfile⟩⟩
    · rintro report rfl
      obtain ⟨htakes, rfl⟩ := exportFrom_ok_iff.mp hrun
      rw [nil_append]
      refine ⟨rfl, fun p hp => ?_⟩
      obtain ⟨call, hcall, rfl⟩ := List.mem_map.mp hp
      exact find_of_takes htakes hcall
    · exact fun e => Path.inside_iff t.here
    · intro hinside l hl
      rcases hgrows.of_ne hl with ⟨hway, hnone, hfolder⟩ | ⟨content, hhanded, hfile⟩
      · obtain ⟨e, he, hpasses⟩ := hway.exists_entity
        rcases (hinside e he).passes_join hpasses with hbelow | hroot
        · exact Or.inl hbelow
        · exact Or.inr ⟨hroot, hnone, hfolder⟩
      · obtain ⟨e, he, rfl, -⟩ := hhanded.exists_entity
        exact Or.inl (hinside e he).prefix_join
    · exact fun s => Path.inside_of_notMem

/-- A document whose namespace begins with two points. -/
def besideText : String :=
  "\x7b\"namespace\": \"../shop\", \"entities\": [\x7b\"name\": \"Cart\"\x7d]\x7d"

/-- What is read from a document may lead out of the output folder. -/
theorem exportAll_beside :
    let c := (Catalog.empty.load .models besideText).2
    let run := exportAll (diskOutput ⟨"out"⟩) heuristic c ⟨[], []⟩
    run.1.toBool ∧ run.2.entries = [(["out"], .folder), (["shop"], .folder),
      (["shop", "Cart.ts"], .file (.text "export interface Cart \x7b\n  id: number;\n\x7d\n\n"))] ∧
    (Disk.Path.mk "out").locationFrom [] = ["out"] ∧ ¬ ["out"] <+: ["shop", "Cart.ts"] := by
  decide +kernel

end SchemaInterfaces.TypeScript
