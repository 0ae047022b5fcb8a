import Mathlib.Data.List.DropRight
import SchemaInterfaces.Proofs.Catalog
import SchemaInterfaces.Proofs.Paths
import SchemaInterfaces.Proofs.Run

/-! Places of files: where the file of an entity lies whatever its namespace and name are, which
entities share a place, and how many files a run leaves. -/
namespace SchemaInterfaces.Disk
open Text

/-- A text up to its last slash, the slash included. -/
def upToSlash (s : String) : String := String.ofList (s.toList.rdropWhile (· != '/'))

/-- What follows the last slash of a text. -/
def afterSlash (s : String) : String := String.ofList (s.toList.rtakeWhile (· != '/'))

theorem upToSlash_append_afterSlash (s : String) : upToSlash s ++ afterSlash s = s := by
  rw [upToSlash, afterSlash, ← String.ofList_append, List.rdropWhile_append_rtakeWhile,
    String.ofList_toList]

theorem slash_notMem_afterSlash (s : String) : '/' ∉ (afterSlash s).toList := by
  intro h
  have hm : '/' ∈ s.toList.rtakeWhile (· != '/') := by simpa [afterSlash] using h
  simpa using List.mem_rtakeWhile_imp hm

theorem slash_of_notMem {s : String} (h : '/' ∉ s.toList) :
    upToSlash s = "" ∧ afterSlash s = s := by
  have hall : ∀ c ∈ s.toList, (c != '/') = true := by
    intro c hc
    rw [bne, beq_eq_false_of_notMem h c hc]
    rfl
  constructor
  · rw [upToSlash, List.rdropWhile_eq_nil_iff.mpr hall, String.ofList_nil]
  · rw [afterSlash, List.rtakeWhile_eq_self_iff.mpr hall, String.ofList_toList]

namespace Path
variable {p : Path} {s name : String}

/-- A name may directly follow the text of the path. -/
def Opens (p : Path) : Prop := p.text = "" ∨ ∃ dir, p.text = dir ++ "/"

theorem opens_iff : p.Opens ↔ p.text = "" ∨ p.endsInSlash := by
  suffices h : (∃ dir, p.text = dir ++ "/") ↔ p.endsInSlash by rw [Opens, h]
  constructor
  · rintro ⟨dir, h⟩
    simp [endsInSlash, h]
  · intro h
    obtain ⟨cs, hcs⟩ := List.getLast?_eq_some_iff.mp (eq_of_beq h)
    refine ⟨String.ofList cs, ?_⟩
    rw [← String.ofList_toList (s := p.text), hcs, String.ofList_append]

theorem opens_upToSlash (s : String) : (mk (upToSlash s)).Opens := by
  rw [opens_iff]
  by_cases h : s.toList.rdropWhile (· != '/') = []
  · exact Or.inl (by simp [upToSlash, h])
  · have hlast := List.rdropWhile_last_not (· != '/') s.toList h
    right
    simpa [endsInSlash, upToSlash, List.getLast?_eq_some_getLast h] using hlast

/-- What the names of a path say as parts of it, a point at the start apart. -/
def partsOf (names : List String) : List Part :=
  (names.filter (· ≠ ".")).map fun n => if n = ".." then .up else .name n

/-- What the start of a path says: that it is the root, or a point. -/
def start (p : Path) : List Part :=
  if p.isAbsolute then [.root] else if p.names.head? = some "." then [.here] else []

theorem parts_eq (p : Path) : p.parts = p.start ++ partsOf p.names := rfl

theorem partsOf_append_name (names : List String) (h : Ordinary name) :
    partsOf (names ++ [name]) = partsOf names ++ [.name name] := by
  simp [partsOf, h.ne_here, h.ne_up]

theorem names_slash (s : String) : (mk (s ++ "/")).names = (mk s).names := by
  have hnone : namesOf [] = [] := rfl
  simp [names, namesOf_append, hnone]

theorem isAbsolute_slash (s t : String) :
    (mk (s ++ "/" ++ t)).isAbsolute = (mk (s ++ "/")).isAbsolute := by
  cases hl : s.toList <;> simp [isAbsolute, hl]

/-- A name that follows a path is one more part of it. -/
theorem parts_append_name (hp : p.Opens) (h : Ordinary name) :
    (mk (p.text ++ name)).parts = p.parts ++ [.name name] := by
  have hlast : namesOf name.toList = [name] := namesOf_of_notMem h.no_slash h.ne_empty
  obtain ⟨text⟩ := p
  rcases hp with hp | ⟨dir, hp⟩ <;> dsimp only at hp <;> subst hp
  · have habs := TypeScript.isAbsolute_of_notMem h.no_slash
    have hname : (mk name).parts = [.name name] := by
      simp [parts, names, habs, hlast, h.ne_here, h.ne_up]
    rw [String.empty_append, hname]
    rfl
  · have hnames : (mk (dir ++ "/" ++ name)).names = (mk (dir ++ "/")).names ++ [name] := by
      rw [names_slash]
      simp [names, namesOf_append, hlast]
    have hstart : (mk (dir ++ "/" ++ name)).start = (mk (dir ++ "/")).start := by
      rw [start, start, isAbsolute_slash, hnames]
      cases (mk (dir ++ "/")).names with
      | nil => simp [h.ne_here]
      | cons n ns => rfl
    rw [parts_eq, parts_eq, hstart, hnames, partsOf_append_name _ h, List.append_assoc]

/-- A slash behind a path that is not empty says nothing. -/
theorem parts_slash (h : s ≠ "") : (mk (s ++ "/")).parts = (mk s).parts := by
  have habs : (mk (s ++ "/")).isAbsolute = (mk s).isAbsolute := by
    cases hl : s.toList with
    | nil => exact (h (String.toList_eq_nil_iff.mp hl)).elim
    | cons c cs => simp [isAbsolute, hl]
  rw [parts_eq, parts_eq, start, start, habs, names_slash]

theorem parts_of_notMem (h : '/' ∉ s.toList) : (mk s).parts =
    if s = "" then [] else if s = "." then [.here] else if s = ".." then [.up] else [.name s] := by
  have habs := TypeScript.isAbsolute_of_notMem h
  by_cases hs : s = ""
  · subst hs
    rfl
  · have hnames : (mk s).names = [s] := namesOf_of_notMem h hs
    by_cases hhere : s = "." <;> by_cases hup : s = ".." <;> simp_all [parts]

/-- Texts without a slash are the same path only if they are equal. -/
theorem eq_of_parts {t : String} (hs : '/' ∉ s.toList) (ht : '/' ∉ t.toList)
    (h : (mk s).parts = (mk t).parts) : s = t := by
  rw [parts_of_notMem hs, parts_of_notMem ht] at h
  split_ifs at h <;> simp_all

theorem parts_join_empty (p : Path) : (p.join ⟨""⟩).parts = p.parts := by
  have habs : (mk "").isAbsolute = false := rfl
  by_cases hp : p.text = "" ∨ p.endsInSlash
  · simp [join, habs, hp]
  · have hne : p.text ≠ "" := fun he => hp (Or.inl he)
    simp only [join, habs, hp, if_false, String.append_empty, Bool.false_eq_true]
    exact parts_slash hne

/-- Seen from a folder, a path that a name may follow is still one. -/
theorem opens_join (p : Path) {q : Path} (hq : q.Opens) : (p.join q).Opens := by
  unfold join
  split
  · exact hq
  · rcases hq with hq | ⟨dir, hq⟩
    · split
      · rename_i hp
        simpa [Opens, hq] using opens_iff.mpr hp
      · exact Or.inr ⟨p.text, by simp [hq]⟩
    · split
      · exact Or.inr ⟨p.text ++ dir, by simp [hq, String.append_assoc]⟩
      · exact Or.inr ⟨p.text ++ "/" ++ dir, by simp [hq, String.append_assoc]⟩

theorem join_append_name (p : Path) {q : Path} (hq : q.Opens) (h : Ordinary name) :
    p.join ⟨q.text ++ name⟩ = ⟨(p.join q).text ++ name⟩ := by
  have habs : (mk (q.text ++ name)).isAbsolute = q.isAbsolute := by
    obtain ⟨text⟩ := q
    rcases hq with hq | ⟨dir, hq⟩ <;> dsimp only at hq <;> subst hq
    · rw [String.empty_append, TypeScript.isAbsolute_of_notMem h.no_slash]
      rfl
    · exact isAbsolute_slash dir name
  unfold join
  rw [habs]
  split
  · rfl
  · split <;> simp [String.append_assoc]

end Path
end SchemaInterfaces.Disk

namespace SchemaInterfaces.TypeScript
open Schema Disk

/-- The folder of an entity's file: the namespace, and what the name has up to its last slash. -/
def folderOf (e : Entity) : Path := Path.join ⟨e.ns⟩ ⟨upToSlash e.exportedName⟩

/-- The name of an entity's file in its folder. -/
def fileName (e : Entity) : String := afterSlash e.exportedName ++ ".ts"

theorem ordinary_fileName (e : Entity) : Ordinary (fileName e) where
  ne_empty := file_ne _ (by decide)
  no_slash := by simp [fileName, slash_notMem_afterSlash]
  ne_here := file_ne _ (by decide)
  ne_up := file_ne _ (by decide)

theorem parts_targetPath_eq (e : Entity) :
    (targetPath e).parts = (folderOf e).parts ++ [.name (fileName e)] := by
  have hopens := Path.opens_upToSlash e.exportedName
  have htext : e.exportedName ++ ".ts" = upToSlash e.exportedName ++ fileName e := by
    rw [fileName, ← String.append_assoc, upToSlash_append_afterSlash]
  have hpath : targetPath e = ⟨(folderOf e).text ++ fileName e⟩ := by
    rw [targetPath, htext]
    exact Path.join_append_name ⟨e.ns⟩ hopens (ordinary_fileName e)
  rw [hpath]
  exact Path.parts_append_name (Path.opens_join ⟨e.ns⟩ hopens) (ordinary_fileName e)

variable {infer : Inferrer} {c : Catalog} {e r : Entity}

/-- Files of two entities lie at one place exactly if their folders are the same and their names
agree behind the last slash. -/
theorem parts_targetPath_eq_iff : (targetPath e).parts = (targetPath r).parts ↔
    (folderOf e).parts = (folderOf r).parts ∧
      afterSlash e.exportedName = afterSlash r.exportedName := by
  rw [parts_targetPath_eq, parts_targetPath_eq]
  simp [fileName]

/-- Without slashes in the names, entities share a place only under one name and in namespaces that
are the same path. -/
theorem eq_of_parts_targetPath (he : '/' ∉ e.name.toList) (hr : '/' ∉ r.name.toList)
    (h : (targetPath e).parts = (targetPath r).parts) :
    (Disk.Path.mk e.ns).parts = (Disk.Path.mk r.ns).parts ∧ e.name = r.name := by
  obtain ⟨hfolder, hname⟩ := parts_targetPath_eq_iff.mp h
  obtain ⟨hup, hafter⟩ := slash_of_notMem he
  obtain ⟨hup', hafter'⟩ := slash_of_notMem hr
  simp only [folderOf, Entity.exportedName, hup, hup', hafter, hafter',
    Path.parts_join_empty] at hfolder hname
  exact ⟨hfolder, hname⟩

/-- Entities of a catalog whose names hold no slash have places of their own if different namespaces
are different paths. -/
theorem nodup_places (hnames : c.names.Nodup) (hslash : ∀ e ∈ c.entities, '/' ∉ e.name.toList)
    (hspaces : ∀ e ∈ c.entities, ∀ r ∈ c.entities,
      (Disk.Path.mk e.ns).parts = (Disk.Path.mk r.ns).parts → e.ns = r.ns) :
    ((files infer c.entities).map (·.path.parts)).Nodup := by
  apply nodup_files
  rw [List.Nodup, List.pairwise_map]
  refine (List.pairwise_map.mp hnames).imp_of_mem ?_
  intro e r he hr hne hsame
  obtain ⟨hns, hname⟩ := eq_of_parts_targetPath (hslash e he) (hslash r hr) hsame
  apply hne
  rw [Entity.qualifiedName, Entity.qualifiedName, hspaces e he r hr hns, hname]

theorem size_putAll_iff (calls : List Call) :
    (Memory.putAll {} calls).size = calls.length ↔ (calls.map (·.path.parts)).Nodup := by
  rw [Memory.size, files_putAll]
  have h := Keyed.length_collect_eq_iff (calls.map fun call => (call.path.parts, call.text))
  rw [List.length_map, List.map_map] at h
  exact h

/-- At every path stands the last of the texts that were put there. -/
theorem get?_putAll_eq (calls : List Call) (p : Path) :
    (Memory.putAll {} calls).get? p =
      ((calls.filter (·.path.parts = p.parts)).getLast?.map (·.text)) := by
  have hsame : (List.instBEq : BEq (List Part)) = instBEqOfDecidableEq :=
    lawful_beq_subsingleton ..
  rw [Memory.get?, files_putAll, hsame, Keyed.lookup_collect, List.filter_map, List.getLast?_map,
    Option.map_map]
  exact Option.or_none

/-- A run into an empty memory leaves at each place the text of the last entity that has it, so
there are as many files as were written exactly if no two of them have one place. Entities share a
place if their folders are one path and their names agree behind the last slash. Under different
qualified names they do so only if a name holds a slash or two namespaces are one path, for which
one of these has to hold a slash. -/
theorem size_exportAll_iff (infer : Inferrer) (c : Catalog) :
    ∃ report memory, exportAll Memory.output infer c {} = (.ok report, memory) ∧
      (memory.size = report.written.length ↔ (report.written.map Path.parts).Nodup) ∧
      (∀ p, memory.get? p =
        (((files infer c.entities).filter (·.path.parts = p.parts)).getLast?.map (·.text))) ∧
      (∀ e r, (targetPath e).parts = (targetPath r).parts ↔
        (folderOf e).parts = (folderOf r).parts ∧
          afterSlash e.exportedName = afterSlash r.exportedName) ∧
      (c.names.Nodup → (∀ e ∈ c.entities, '/' ∉ e.name.toList) →
        (∀ e ∈ c.entities, ∀ r ∈ c.entities,
          (Disk.Path.mk e.ns).parts = (Disk.Path.mk r.ns).parts → e.ns = r.ns) →
        memory.size = report.written.length) ∧
      ∀ s t : String, '/' ∉ s.toList → '/' ∉ t.toList →
        (Disk.Path.mk s).parts = (Disk.Path.mk t).parts → s = t := by
  have hlength : (fullReport infer c.entities).written.length =
      (files infer c.entities).length := List.length_map _
  refine ⟨_, _, exportAll_memory infer c {}, ?_, get?_putAll_eq _, ?_, ?_, ?_⟩
  · rw [hlength, size_putAll_iff, fullReport, List.map_map]
    rfl
  · intro e r
    exact parts_targetPath_eq_iff
  · intro hnames hslash hspaces
    rw [hlength, size_putAll_iff]
    exact nodup_places hnames hslash hspaces
  · intro s t hs ht h
    exact Path.eq_of_parts hs ht h

/-- A doubled slash makes another namespace, but not another folder. -/
theorem size_exportAll_clash :
    let first : Entity :=
      { name := "Order", ns := "shop/eu", fields := [{ name := "id", kind := .integer }] }
    let second : Entity := { name := "Order", ns := "shop//eu" }
    let c := Catalog.ofList [first, second]
    c.names = ["shop/eu.Order", "shop//eu.Order"] ∧
      ∃ report memory, exportAll Memory.output heuristic c {} = (.ok report, memory) ∧
        report.written.length = 2 ∧ memory.size = 1 ∧
        memory.get? (targetPath first) = some "export interface Order \x7b\n\x7d\n\n" := by
  refine ⟨by decide, _, _, exportAll_memory _ _ _, by decide, by decide, by decide⟩

end SchemaInterfaces.TypeScript
