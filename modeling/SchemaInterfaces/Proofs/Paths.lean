import SchemaInterfaces.TypeScript.Export

/-! Where the files of entities lie, and where the paths in their imports lead. -/
namespace SchemaInterfaces.Disk
open Text

/-- A text that names one entry of a folder. -/
structure Ordinary (s : String) : Prop where
  ne_empty : s ≠ ""
  no_slash : '/' ∉ s.toList
  ne_here : s ≠ "."
  ne_up : s ≠ ".."

/-- A text that names one entry of a folder on every system. -/
structure Segment (s : String) : Prop extends Ordinary s where
  no_backslash : '\\' ∉ s.toList

instance (s : String) : Decidable (Segment s) :=
  decidable_of_iff (s ≠ "" ∧ '/' ∉ s.toList ∧ s ≠ "." ∧ s ≠ ".." ∧ '\\' ∉ s.toList)
    ⟨fun ⟨h₁, h₂, h₃, h₄, h₅⟩ => ⟨⟨h₁, h₂, h₃, h₄⟩, h₅⟩, fun h =>
      ⟨h.ne_empty, h.no_slash, h.ne_here, h.ne_up, h.no_backslash⟩⟩

theorem piecesOf_append (s t : List Char) :
    piecesOf (s ++ '/' :: t) = piecesOf s ++ piecesOf t := by
  rw [piecesOf, splitBy_append _ s rfl, List.map_append]
  rfl

theorem piecesOf_of_notMem {s : String} (h : '/' ∉ s.toList) : piecesOf s.toList = [s] := by
  rw [piecesOf, splitBy_of_none _ (beq_eq_false_of_notMem h)]
  simp

theorem namesOf_append (s t : List Char) : namesOf (s ++ '/' :: t) = namesOf s ++ namesOf t := by
  rw [namesOf, piecesOf_append, List.filter_append]
  rfl

theorem namesOf_of_notMem {s : String} (h : '/' ∉ s.toList) (hne : s ≠ "") :
    namesOf s.toList = [s] := by
  simp [namesOf, piecesOf_of_notMem h, hne]

namespace Path

/-- One step of a relative path: a point stays, two points leave the last folder. -/
def enter (folders : List String) (name : String) : List String :=
  if name = "." then folders else if name = ".." then folders.dropLast else folders ++ [name]

/-- Where a relative path leads from a folder. -/
def resolve (dir p : Path) : Path := ⟨"/".intercalate (p.names.foldl enter dir.names)⟩

end Path

end SchemaInterfaces.Disk

namespace SchemaInterfaces.TypeScript
open Schema Disk

variable {e : Entity} {ns name exported related current : String}

theorem file_ne (name : String) {s : String} (hs : s.length < 3) : name ++ ".ts" ≠ s := by
  intro he
  have hl := congrArg String.length he
  rw [String.length_append, show ".ts".length = 3 from rfl] at hl
  omega

theorem ordinary_file (h : Ordinary name) : Ordinary (name ++ ".ts") where
  ne_empty := file_ne name (by decide)
  no_slash := by simp [h.no_slash]
  ne_here := file_ne name (by decide)
  ne_up := file_ne name (by decide)

theorem isAbsolute_of_notMem {s : String} (h : '/' ∉ s.toList) :
    (Disk.Path.mk s).isAbsolute = false := by
  have : s.toList.head? ≠ some '/' := fun he => h (List.mem_of_head? he)
  simpa [Path.isAbsolute] using this

theorem endsInSlash_of_notMem {s : String} (h : '/' ∉ s.toList) :
    (Disk.Path.mk s).endsInSlash = false := by
  have : s.toList.getLast? ≠ some '/' := fun he => h (List.mem_of_getLast? he)
  simpa [Path.endsInSlash] using this

theorem isAbsolute_append {s : String} (hs : Ordinary s) (t : String) :
    (Disk.Path.mk (s ++ t)).isAbsolute = false := by
  have hhead := isAbsolute_of_notMem hs.no_slash
  simp only [Path.isAbsolute, String.toList_append] at hhead ⊢
  cases hl : s.toList with
  | nil => exact (hs.ne_empty (String.toList_eq_nil_iff.mp hl)).elim
  | cons c rest => simpa [hl] using hhead

theorem targetPath_eq (hns : Ordinary e.ns) (hname : Ordinary e.name) :
    targetPath e = ⟨e.ns ++ "/" ++ (e.name ++ ".ts")⟩ := by
  have hfile := (ordinary_file hname).no_slash
  simp [targetPath, Path.join, Entity.exportedName, isAbsolute_of_notMem hfile, hns.ne_empty,
    endsInSlash_of_notMem hns.no_slash]

theorem piecesOf_targetPath (hns : Ordinary e.ns) (hname : Ordinary e.name) :
    piecesOf (targetPath e).text.toList = [e.ns, e.name ++ ".ts"] := by
  have htext : (targetPath e).text.toList = e.ns.toList ++ '/' :: (e.name ++ ".ts").toList := by
    simp [targetPath_eq hns hname]
  rw [htext, piecesOf_append, piecesOf_of_notMem hns.no_slash,
    piecesOf_of_notMem (ordinary_file hname).no_slash]
  rfl

theorem parts_targetPath (hns : Ordinary e.ns) (hname : Ordinary e.name) :
    (targetPath e).parts = [.name e.ns, .name (e.name ++ ".ts")] := by
  have hfile := ordinary_file hname
  have hnames : (targetPath e).names = [e.ns, e.name ++ ".ts"] := by
    simp [Path.names, namesOf, piecesOf_targetPath hns hname, hns.ne_empty, hfile.ne_empty]
  have habs : (targetPath e).isAbsolute = false := by
    rw [targetPath_eq hns hname, String.append_assoc]
    exact isAbsolute_append hns _
  simp [Path.parts, hnames, habs, hns.ne_here, hns.ne_up, hfile.ne_here, hfile.ne_up]

/-- The file of an entity lies in the folder that its namespace names. -/
theorem parent?_targetPath (hns : Ordinary e.ns) (hname : Ordinary e.name) :
    (targetPath e).parent? = some ⟨e.ns⟩ := by
  have hfile := ordinary_file hname
  have hcuts : cuts [e.name ++ ".ts"] = [[e.name ++ ".ts"], []] := by
    simp [cuts, hfile.ne_empty, hfile.ne_here]
  unfold Path.parent? Path.above
  rw [piecesOf_targetPath hns hname]
  split
  · contradiction
  · rename_i h
    exact (hns.ne_empty (List.cons.inj h).1).elim
  · rename_i h
    obtain ⟨rfl, rfl⟩ := List.cons.inj h
    simp [hcuts]

theorem names_importPath_same (h : Ordinary exported) (ns : String) :
    (Disk.Path.mk (importPath exported ns ns)).names = [".", exported ++ ".ts"] := by
  have htext : (importPath exported ns ns).toList =
      ".".toList ++ '/' :: (exported ++ ".ts").toList := by
    simp [importPath]
  have hfile := ordinary_file h
  rw [Path.names, htext, namesOf_append, namesOf_of_notMem hfile.no_slash hfile.ne_empty,
    namesOf_of_notMem (by decide) (by decide)]
  rfl

/-- A namespace as an import writes it: with a slash for every backslash. -/
def slashed (s : String) : String := s.map fun c => if c = '\\' then '/' else c

theorem slashed_of_notMem {s : String} (h : '\\' ∉ s.toList) : slashed s = s := by
  rw [← String.toList_inj, slashed, String.toList_map]
  refine (List.map_congr_left ?_).trans (List.map_id _)
  intro c hc
  have hne := beq_eq_false_iff_ne.mp (Text.beq_eq_false_of_notMem h c hc)
  simp [hne]

theorem names_importPath_other (h : Ordinary exported) (hr : Ordinary related)
    (hback : '\\' ∉ related.toList) (hne : related ≠ current) :
    (Disk.Path.mk (importPath exported related current)).names =
      ["..", related, exported ++ ".ts"] := by
  have hsame : related.map (fun c => if c = '\\' then '/' else c) = related :=
    slashed_of_notMem hback
  have htext : (importPath exported related current).toList =
      "..".toList ++ '/' :: (related.toList ++ '/' :: (exported ++ ".ts").toList) := by
    simp [importPath, hne, hsame]
  have hfile := ordinary_file h
  rw [Path.names, htext, namesOf_append, namesOf_append,
    namesOf_of_notMem hfile.no_slash hfile.ne_empty, namesOf_of_notMem hr.no_slash hr.ne_empty,
    namesOf_of_notMem (by decide) (by decide)]
  rfl

/-- Followed from the folder of the importing file, the path of an import ends at the imported
file. -/
theorem resolve_importPath (h : Ordinary exported) (hr : Ordinary related)
    (hback : '\\' ∉ related.toList) (hc : Ordinary current) :
    (Disk.Path.mk current).resolve ⟨importPath exported related current⟩ =
      ⟨related ++ "/" ++ (exported ++ ".ts")⟩ := by
  have hfile := ordinary_file h
  have hdir : (Disk.Path.mk current).names = [current] := namesOf_of_notMem hc.no_slash hc.ne_empty
  by_cases hne : related = current
  · subst hne
    rw [Path.resolve, names_importPath_same h, hdir]
    simp [Path.enter, hfile.ne_here, hfile.ne_up]
  · rw [Path.resolve, names_importPath_other h hr hback hne, hdir]
    simp [Path.enter, hfile.ne_here, hfile.ne_up, hr.ne_here, hr.ne_up]

/-- The import of an entity leads to where its file belongs. -/
theorem resolve_importPath_eq_targetPath {r : Entity} (hc : Ordinary current) (hns : Segment r.ns)
    (hname : Segment r.name) :
    (Disk.Path.mk current).resolve ⟨importPath r.exportedName r.ns current⟩ = targetPath r := by
  rw [targetPath_eq hns.toOrdinary hname.toOrdinary]
  exact resolve_importPath hname.toOrdinary hns.toOrdinary hns.no_backslash hc

end SchemaInterfaces.TypeScript
