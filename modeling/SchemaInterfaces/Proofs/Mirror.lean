import SchemaInterfaces.Proofs.Confinement
import SchemaInterfaces.Proofs.Links

/-! Exports onto a disk and into a memory: what the memory holds is found on the disk, and every
other file of the disk is as it was. -/
namespace SchemaInterfaces.Disk.Tree

theorem readText_of_find {t : Tree} {p : Path} {l : Location} {s : String}
    (h : t.find p = .ok (l, .file (.text s))) : t.readText p = .ok s := by
  rw [readText, h]
  rfl

end SchemaInterfaces.Disk.Tree

namespace SchemaInterfaces.TypeScript
open Schema Disk Disk.Tree

/-- The namespace of an entity names one folder, and its name has no slash. -/
structure Plain (e : Entity) : Prop where
  ns : Ordinary e.ns
  name : '/' ∉ e.name.toList

variable {root p : Path} {here l : Location} {infer : Inferrer} {c : Catalog} {es : List Entity}
  {e r : Entity} {t t' : Tree} {call other : Call} {report : Report} {text : String}

/-- The file of a plain entity lies in a folder of its own name below the output folder. -/
theorem Plain.location_targetPath (h : Plain e) : (root.join (targetPath e)).locationFrom here =
    root.locationFrom here ++ [e.ns, e.exportedName ++ ".ts"] := by
  have hfile := ordinary_of_no_slash h.name
  have hnames : (targetPath e).names = [e.ns, e.exportedName ++ ".ts"] := by
    have hns : (Disk.Path.mk e.ns).names = [e.ns] := namesOf_of_notMem h.ns.no_slash h.ns.ne_empty
    rw [targetPath, Path.names_join_name _ hfile, hns]
    rfl
  have habs : (targetPath e).isAbsolute = false := by
    rw [targetPath, Path.isAbsolute_join (isAbsolute_of_notMem hfile.no_slash)]
    exact isAbsolute_of_notMem h.ns.no_slash
  have hall : ∀ n ∈ [e.ns, e.exportedName ++ ".ts"], Ordinary n := by
    simpa using ⟨h.ns, hfile⟩
  rw [Path.locationFrom_join habs, hnames, Path.foldl_enter_of_ordinary hall]

theorem Plain.targetPath_eq_of_parts (he : Plain e) (hr : Plain r)
    (h : (targetPath e).parts = (targetPath r).parts) : targetPath e = targetPath r := by
  obtain ⟨hns, hname⟩ := eq_of_parts_targetPath he.name hr.name h
  have hspace := Path.eq_of_parts he.ns.no_slash hr.ns.no_slash hns
  rw [targetPath, targetPath, Entity.exportedName, Entity.exportedName, hspace, hname]

theorem Plain.targetPath_eq_of_location (he : Plain e) (hr : Plain r)
    (h : (root.join (targetPath e)).locationFrom here =
      (root.join (targetPath r)).locationFrom here) : targetPath e = targetPath r := by
  rw [he.location_targetPath, hr.location_targetPath] at h
  obtain ⟨hspace, hname⟩ : e.ns = r.ns ∧ e.exportedName ++ ".ts" = r.exportedName ++ ".ts" := by
    simpa using h
  rw [targetPath, targetPath, hspace, hname]

/-- Files of plain entities meet on the disk exactly if they meet in a memory. -/
theorem location_eq_iff_parts (h : ∀ e ∈ es, Plain e) (hcall : call ∈ files infer es)
    (hother : other ∈ files infer es) : (root.join other.path).locationFrom here =
      (root.join call.path).locationFrom here ↔ other.path.parts = call.path.parts := by
  obtain ⟨e, he, hpath⟩ := exists_of_mem_files hcall
  obtain ⟨r, hr, hpath'⟩ := exists_of_mem_files hother
  rw [← hpath, ← hpath']
  constructor
  · intro hsame
    rw [(h r hr).targetPath_eq_of_location (h e he) hsame]
  · intro hsame
    rw [(h r hr).targetPath_eq_of_parts (h e he) hsame]

/-- Disk and memory end up with one text at the place of a call. -/
theorem readText_of_takes (h : ∀ e ∈ es, Plain e)
    (htakes : Takes (diskOutput root) t (files infer es) t') (hcall : call ∈ files infer es) :
    ∃ text, (Memory.putAll {} (files infer es)).get? call.path = some text ∧
      t'.readText (root.join call.path) = .ok text := by
  have hsame : (files infer es).filter (fun other => (root.join other.path).locationFrom t.here =
      (root.join call.path).locationFrom t.here) =
        (files infer es).filter (·.path.parts = call.path.parts) := by
    refine List.filter_congr fun other hother => ?_
    rw [decide_eq_decide]
    exact location_eq_iff_parts h hcall hother
  have hne : (files infer es).filter (·.path.parts = call.path.parts) ≠ [] :=
    List.ne_nil_of_mem (List.mem_filter.mpr ⟨hcall, by simp⟩)
  obtain ⟨last, hlast⟩ := Option.ne_none_iff_exists'.mp (mt List.getLast?_eq_none_iff.mp hne)
  obtain ⟨content, hfind⟩ := find_of_takes htakes hcall
  have hentry := (location_of_find hfind).2
  have hwritten : ((files infer es).filter fun other => (root.join other.path).locationFrom t.here =
      (root.join call.path).locationFrom t.here).getLast? = some last := by
    rw [hsame, hlast]
  rw [entry_of_takes htakes hwritten] at hentry
  obtain rfl : .text last.text = content := by simpa using hentry
  refine ⟨last.text, ?_, readText_of_find hfind⟩
  rw [get?_putAll_eq, hlast]
  rfl

/-- If an export of plain entities onto a disk ends well, then the same export into an empty memory
gives the same report, what the memory holds is found below the output folder, every written file
among it, and every other file of the disk is where it was with what it held. -/
theorem exportAll_mirrors (hplain : ∀ e ∈ c.entities, Plain e)
    (hrun : exportAll (diskOutput root) infer c t = (.ok report, t')) :
    ∃ memory, exportAll Memory.output infer c {} = (.ok report, memory) ∧
      (∀ p text, memory.get? p = some text →
        ∃ q ∈ report.written, q.parts = p.parts ∧ t'.readText (root.join q) = .ok text) ∧
      (∀ p ∈ report.written, ∃ text, memory.get? p = some text ∧
        t'.readText (root.join p) = .ok text) ∧
      ∀ l content, t.entry? l = some (.file content) →
        (∀ p ∈ report.written, (root.join p).locationFrom t.here ≠ l) →
        t'.entry? l = some (.file content) ∧
          ∀ q, t.find q = .ok (l, .file content) → t'.find q = .ok (l, .file content) := by
  obtain ⟨htakes, rfl⟩ := exportFrom_ok_iff.mp hrun
  rw [nil_append]
  refine ⟨_, exportAll_memory infer c {}, ?_, ?_, ?_⟩
  · intro p text hget
    have hlast := hget
    rw [get?_putAll_eq, Option.map_eq_some_iff] at hlast
    obtain ⟨call, hlast, -⟩ := hlast
    obtain ⟨hcall, hparts⟩ := List.mem_filter.mp (List.mem_of_getLast? hlast)
    obtain hparts := of_decide_eq_true hparts
    obtain ⟨found, hfound, hread⟩ := readText_of_takes hplain htakes hcall
    rw [Memory.get?, hparts] at hfound
    obtain rfl := Option.some.inj (hfound.symm.trans hget)
    exact ⟨call.path, List.mem_map_of_mem hcall, hparts, hread⟩
  · intro p hp
    obtain ⟨call, hcall, rfl⟩ := List.mem_map.mp hp
    exact readText_of_takes hplain htakes hcall
  · intro l content hentry hother
    have hgrows := grows_of_takes htakes
    have hkept : t'.entry? l = some (.file content) := by
      refine hgrows.entry hentry ?_
      rintro written ⟨call, hcall, rfl, -⟩
      exact hother call.path (List.mem_map_of_mem hcall) rfl
    refine ⟨hkept, fun q hfind => hgrows.find hfind hkept ?_⟩
    exact fun hend => (not_endsInSlash_of_find hfind hend).elim

/-- A disk with an old file at the place of an order, and with one that is no file of an entity. -/
def stocked : Tree where
  entries := [(["out"], .folder), (["out", "notes"], .file (.text "keep")),
    (["out", "shop"], .folder), (["out", "shop", "Order.ts"], .file (.text "old"))]
  here := []

theorem exportAll_mirrors_orders :
    (∀ e ∈ (Catalog.ofList [customer, order]).entities, Plain e) ∧
    ∃ report t' memory text,
      exportAll (diskOutput ⟨"out"⟩) heuristic (.ofList [customer, order]) stocked =
        (.ok report, t') ∧
      exportAll Memory.output heuristic (.ofList [customer, order]) {} = (.ok report, memory) ∧
      memory.get? (targetPath order) = some text ∧
      t'.readText ((Disk.Path.mk "out").join (targetPath order)) = .ok text ∧
      t'.entry? ["out", "notes"] = some (.file (.text "keep")) := by
  have hentities : (Catalog.ofList [customer, order]).entities = [customer, order] := by decide
  have hplain : ∀ e ∈ (Catalog.ofList [customer, order]).entities, Plain e := by
    rw [hentities]
    simpa using ⟨⟨by decide, by decide⟩, ⟨by decide, by decide⟩⟩
  refine ⟨hplain, ?_⟩
  cases hrun : exportAll (diskOutput ⟨"out"⟩) heuristic (.ofList [customer, order]) stocked with
  | mk result t' =>
    cases result with
    | error fault =>
      have hfine : (exportAll (diskOutput ⟨"out"⟩) heuristic (.ofList [customer, order])
        stocked).1.toBool := by decide +kernel
      rw [hrun] at hfine
      contradiction
    | ok report =>
      obtain ⟨memory, hmemory, -, hwritten, hkept⟩ := exportAll_mirrors hplain hrun
      have hreport : report = fullReport heuristic [customer, order] := by
        rw [exportAll_memory, hentities] at hmemory
        simpa [eq_comm] using congrArg Prod.fst hmemory
      subst hreport
      obtain ⟨text, hget, hread⟩ := hwritten (targetPath order) (by decide)
      have hnotes := (hkept ["out", "notes"] (.text "keep") (by decide) (by decide)).1
      exact ⟨_, t', memory, text, rfl, hmemory, hget, hread, hnotes⟩

end SchemaInterfaces.TypeScript
