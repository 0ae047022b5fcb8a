import SchemaInterfaces.Proofs.Places

/-! Imports between namespaces of any depth: where the path of an import leads. -/
namespace SchemaInterfaces.Disk
open Text

variable {s name : String} {names dirs : List String}

theorem piecesOf_eq_splitOn (s : List Char) : piecesOf s = (s.splitOn '/').map String.ofList := by
  rw [piecesOf, splitBy_eq_splitOnP]
  rfl

/-- The pieces between slashes, joined by slashes, are the text again. -/
theorem intercalate_piecesOf (s : String) : "/".intercalate (piecesOf s.toList) = s := by
  rw [← String.toList_inj, String.toList_intercalate, piecesOf_eq_splitOn, List.map_map]
  have hid : String.toList ∘ String.ofList = id := funext fun cs => String.toList_ofList
  rw [hid, List.map_id]
  exact List.intercalate_splitOn '/'

/-- Names without a slash, joined by slashes, are the pieces of the result. -/
theorem piecesOf_intercalate (hne : names ≠ []) (h : ∀ n ∈ names, '/' ∉ n.toList) :
    piecesOf ("/".intercalate names).toList = names := by
  have hslash : ∀ cs ∈ names.map String.toList, '/' ∉ cs := by
    intro cs hcs
    obtain ⟨n, hn, rfl⟩ := List.mem_map.mp hcs
    exact h n hn
  rw [piecesOf_eq_splitOn, String.toList_intercalate]
  have hsplit := List.splitOn_intercalate '/' hslash (by simpa using hne)
  change (List.splitOn '/' (['/'].intercalate _)).map String.ofList = names
  rw [hsplit, List.map_map]
  have hid : String.ofList ∘ String.toList = id := funext fun s => String.ofList_toList
  rw [hid, List.map_id]

theorem length_piecesOf (s : List Char) : (piecesOf s).length = s.count '/' + 1 := by
  rw [piecesOf, List.length_map, length_splitBy]
  rfl

theorem slash_notMem_of_mem_piecesOf {s : List Char} (h : name ∈ piecesOf s) :
    '/' ∉ name.toList := by
  obtain ⟨piece, hpiece, rfl⟩ := List.mem_map.mp h
  intro hc
  have hsep := sep_eq_false_of_mem_splitBy hpiece '/' (by simpa using hc)
  simp at hsep

/-- A text that names folders, one inside the other. -/
def Nested (s : String) : Prop := ∀ n ∈ piecesOf s.toList, Ordinary n

instance (s : String) : Decidable (Ordinary s) :=
  decidable_of_iff (s ≠ "" ∧ '/' ∉ s.toList ∧ s ≠ "." ∧ s ≠ "..")
    ⟨fun ⟨h₁, h₂, h₃, h₄⟩ => ⟨h₁, h₂, h₃, h₄⟩, fun h =>
      ⟨h.ne_empty, h.no_slash, h.ne_here, h.ne_up⟩⟩

instance (s : String) : Decidable (Nested s) :=
  inferInstanceAs (Decidable (∀ n ∈ piecesOf s.toList, Ordinary n))

theorem Nested.names_eq (h : Nested s) : (Path.mk s).names = piecesOf s.toList := by
  rw [Path.names, namesOf, List.filter_eq_self]
  intro n hn
  simpa using (h n hn).ne_empty

namespace Path

theorem foldl_enter_of_ordinary (h : ∀ n ∈ names, Ordinary n) :
    names.foldl enter dirs = dirs ++ names := by
  induction names generalizing dirs with
  | nil => simp
  | cons n names ih =>
    have hn := h n (by simp)
    rw [List.foldl_cons, enter, if_neg hn.ne_here, if_neg hn.ne_up,
      ih fun m hm => h m (List.mem_cons_of_mem n hm), List.append_assoc]
    rfl

/-- Steps enter nothing but what they name. -/
theorem mem_foldl_enter (hn : name ∈ names.foldl enter dirs) : name ∈ dirs ∨ name ∈ names := by
  induction names generalizing dirs with
  | nil => exact Or.inl hn
  | cons m names ih =>
    rcases ih hn with h | h
    · rw [enter] at h
      split at h
      · exact Or.inl h
      · split at h
        · exact Or.inl (List.dropLast_subset dirs h)
        · rcases List.mem_append.mp h with h | h
          · exact Or.inl h
          · exact Or.inr (List.mem_cons.mpr (Or.inl (List.mem_singleton.mp h)))
    · exact Or.inr (List.mem_cons_of_mem m h)

end Path
end SchemaInterfaces.Disk

namespace SchemaInterfaces.TypeScript
open Schema Disk

variable {e : Entity} {exported related current : String}

theorem count_slashed (s : String) :
    (slashed s).toList.count '/' = s.toList.count '/' + s.toList.count '\\' := by
  rw [slashed, String.toList_map]
  induction s.toList with
  | nil => rfl
  | cons c cs ih =>
    by_cases hback : c = '\\'
    · subst hback
      simp [ih]
      omega
    · by_cases hslash : c = '/'
      · subst hslash
        simp [ih]
        omega
      · simp [hback, hslash, ih]

theorem namesOf_up (s : List Char) : namesOf ("../".toList ++ s) = ".." :: namesOf s := by
  have hup : namesOf "..".toList = [".."] := namesOf_of_notMem (by decide) (by decide)
  change namesOf ("..".toList ++ '/' :: s) = _
  rw [namesOf_append, hup]
  rfl

theorem names_importPath (h : Ordinary exported) (hne : related ≠ current) :
    (Disk.Path.mk (importPath exported related current)).names =
      ".." :: namesOf (slashed related).toList ++ [exported ++ ".ts"] := by
  have hfile := ordinary_file h
  have htext : (importPath exported related current).toList =
      "../".toList ++ ((slashed related).toList ++ '/' :: (exported ++ ".ts").toList) := by
    simp [importPath, hne, slashed]
  rw [Path.names, htext, namesOf_up, namesOf_append,
    namesOf_of_notMem hfile.no_slash hfile.ne_empty, List.cons_append]

/-- The folders that an import from another namespace goes through, from the importing one on. -/
def route (related current : String) : List String :=
  (namesOf (slashed related).toList).foldl Path.enter (Disk.Path.mk current).names.dropLast

theorem resolve_folder (related current : String) :
    (Disk.Path.mk current).resolve ⟨"../" ++ slashed related⟩ =
      ⟨"/".intercalate (route related current)⟩ := by
  have hnames : (Disk.Path.mk ("../" ++ slashed related)).names =
      ".." :: namesOf (slashed related).toList := by
    rw [Path.names, String.toList_append, namesOf_up]
  rw [Path.resolve, hnames]
  rfl

theorem resolve_importPath_route (h : Ordinary exported) (hne : related ≠ current) :
    (Disk.Path.mk current).resolve ⟨importPath exported related current⟩ =
      ⟨"/".intercalate (route related current ++ [exported ++ ".ts"])⟩ := by
  have hfile := ordinary_file h
  rw [Path.resolve, names_importPath h hne, List.foldl_append]
  simp [Path.enter, hfile.ne_here, hfile.ne_up, route]

theorem slash_notMem_route {n : String} (hn : n ∈ route related current) : '/' ∉ n.toList := by
  have hnames : ∀ s : List Char, n ∈ namesOf s → '/' ∉ n.toList := by
    intro s h
    exact slash_notMem_of_mem_piecesOf (List.mem_filter.mp h).1
  rcases Path.mem_foldl_enter hn with h | h
  · exact hnames _ (List.dropLast_subset _ h)
  · exact hnames _ h

theorem not_opens_of_nested {s : String} (h : Nested s) : ¬ (Disk.Path.mk s).Opens := by
  rintro (hs | ⟨dir, hs⟩) <;> dsimp only at hs <;> subst hs
  · exact (h "" (by decide)).ne_empty rfl
  · have hpieces : piecesOf (dir ++ "/").toList = piecesOf dir.toList ++ [""] := by
      rw [String.toList_append]
      exact piecesOf_append _ []
    have hmem : "" ∈ piecesOf (dir ++ "/").toList := by
      rw [hpieces]
      simp
    exact (h "" hmem).ne_empty rfl

theorem targetPath_of_nested (hns : Nested e.ns) (hname : Ordinary e.exportedName) :
    targetPath e = ⟨e.ns ++ "/" ++ (e.exportedName ++ ".ts")⟩ := by
  have habs := isAbsolute_of_notMem (ordinary_file hname).no_slash
  have hopens := Path.opens_iff.not.mp (not_opens_of_nested hns)
  simp only [targetPath, Path.join, habs, if_neg hopens]
  rfl

theorem piecesOf_file (ns : String) (h : Ordinary exported) :
    piecesOf (ns ++ "/" ++ (exported ++ ".ts")).toList =
      piecesOf ns.toList ++ [exported ++ ".ts"] := by
  have htext : (ns ++ "/" ++ (exported ++ ".ts")).toList =
      ns.toList ++ '/' :: (exported ++ ".ts").toList := by
    simp
  rw [htext, piecesOf_append, piecesOf_of_notMem (ordinary_file h).no_slash]

theorem resolve_importPath_same (hns : Nested e.ns) (hname : Ordinary e.exportedName) :
    (Disk.Path.mk e.ns).resolve ⟨importPath e.exportedName e.ns e.ns⟩ = targetPath e := by
  have hfile := ordinary_file hname
  have hnames : (Disk.Path.mk e.ns).names = piecesOf e.ns.toList := hns.names_eq
  rw [Path.resolve, names_importPath_same hname, hnames, targetPath_of_nested hns hname]
  have hsteps : [".", e.exportedName ++ ".ts"].foldl Path.enter (piecesOf e.ns.toList) =
      piecesOf e.ns.toList ++ [e.exportedName ++ ".ts"] := by
    simp [Path.enter, hfile.ne_here, hfile.ne_up]
  rw [hsteps, ← piecesOf_file e.ns hname, intercalate_piecesOf]

/-- An import from another namespace leads to the file exactly if its route ends in the folder of
the file. -/
theorem resolve_importPath_iff_route (hns : Nested e.ns) (hname : Ordinary e.exportedName)
    (hne : e.ns ≠ current) :
    (Disk.Path.mk current).resolve ⟨importPath e.exportedName e.ns current⟩ = targetPath e ↔
      route e.ns current = piecesOf e.ns.toList := by
  have hfile := ordinary_file hname
  rw [targetPath_of_nested hns hname, resolve_importPath_route hname hne, Disk.Path.mk.injEq]
  constructor
  · intro h
    have hslash : ∀ n ∈ route e.ns current ++ [e.exportedName ++ ".ts"], '/' ∉ n.toList := by
      intro n hn
      rcases List.mem_append.mp hn with hn | hn
      · exact slash_notMem_route hn
      · rw [List.mem_singleton.mp hn]
        exact hfile.no_slash
    have hpieces := piecesOf_intercalate (by simp) hslash
    rw [h, piecesOf_file e.ns hname] at hpieces
    exact (List.append_cancel_right hpieces).symm
  · intro h
    rw [h]
    have hpieces := piecesOf_file e.ns hname
    rw [← hpieces, intercalate_piecesOf]

theorem resolve_folder_iff_route (hns : Nested e.ns) :
    (Disk.Path.mk current).resolve ⟨"../" ++ slashed e.ns⟩ = ⟨e.ns⟩ ↔
      route e.ns current = piecesOf e.ns.toList := by
  rw [resolve_folder, Disk.Path.mk.injEq]
  constructor
  · intro h
    have hne : route e.ns current ≠ [] := by
      intro hnil
      rw [hnil] at h
      exact not_opens_of_nested hns (Or.inl h.symm)
    rw [← piecesOf_intercalate hne fun n hn => slash_notMem_route hn, h]
  · intro h
    rw [h, intercalate_piecesOf]

/-- Where backslashes part folders too, the route ends in the folder only from one level below the
root, and only if there are no backslashes. -/
theorem route_eq_iff (hc : Nested current) (hback : Nested (slashed related)) :
    route related current = piecesOf related.toList ↔
      '/' ∉ current.toList ∧ '\\' ∉ related.toList := by
  have hroute : route related current =
      (piecesOf current.toList).dropLast ++ piecesOf (slashed related).toList := by
    have hnames : namesOf (slashed related).toList = piecesOf (slashed related).toList :=
      hback.names_eq
    rw [route, hc.names_eq, hnames, Path.foldl_enter_of_ordinary hback]
  rw [hroute]
  constructor
  · intro h
    have hlength := congrArg List.length h
    simp only [List.length_append, List.length_dropLast, length_piecesOf, count_slashed] at hlength
    have hslash : current.toList.count '/' = 0 := by omega
    have hnone : related.toList.count '\\' = 0 := by omega
    exact ⟨List.count_eq_zero.mp hslash, List.count_eq_zero.mp hnone⟩
  · rintro ⟨hslash, hnone⟩
    rw [piecesOf_of_notMem hslash, slashed_of_notMem hnone]
    rfl

/-- From a folder of any depth, the import of an entity leads to its file exactly if both have one
namespace, or if stepping out of one folder and into the namespace, with slashes for its
backslashes, leads to that namespace. Where backslashes part ordinary folders too, the latter holds
exactly for an importing namespace of one level and a target without backslashes. -/
theorem resolve_importPath_iff (hns : Nested e.ns) (hname : Ordinary e.exportedName)
    (hc : Nested current) :
    targetPath e = ⟨e.ns ++ "/" ++ (e.exportedName ++ ".ts")⟩ ∧
    ((Disk.Path.mk current).resolve ⟨importPath e.exportedName e.ns current⟩ = targetPath e ↔
      e.ns = current ∨ (Disk.Path.mk current).resolve ⟨"../" ++ slashed e.ns⟩ = ⟨e.ns⟩) ∧
    (Nested (slashed e.ns) →
      ((Disk.Path.mk current).resolve ⟨importPath e.exportedName e.ns current⟩ = targetPath e ↔
        e.ns = current ∨ '/' ∉ current.toList ∧ '\\' ∉ e.ns.toList)) := by
  refine ⟨targetPath_of_nested hns hname, ?_⟩
  by_cases hne : e.ns = current
  · have hsame := resolve_importPath_same hns hname
    simp only [hne, true_or, iff_true]
    exact ⟨hne ▸ hsame, fun _ => hne ▸ hsame⟩
  · simp only [hne, false_or]
    rw [resolve_importPath_iff_route hns hname hne, resolve_folder_iff_route hns]
    exact ⟨Iff.rfl, fun hback => route_eq_iff hc hback⟩

theorem resolve_importPath_nested :
    let e : Entity := { name := "Invoice", ns := "billing/invoices" }
    Nested e.ns ∧ Ordinary e.exportedName ∧ Nested "shop" ∧
      (Disk.Path.mk "shop").resolve ⟨importPath e.exportedName e.ns "shop"⟩ = targetPath e := by
  intro e
  have hns : Nested e.ns := by decide
  have hname : Ordinary e.exportedName := by decide
  have hc : Nested "shop" := by decide
  have hback : Nested (slashed e.ns) := by
    rw [slashed_of_notMem (by decide)]
    exact hns
  obtain ⟨-, -, hiff⟩ := resolve_importPath_iff hns hname hc
  exact ⟨hns, hname, hc, (hiff hback).mpr (Or.inr (by decide))⟩

/-- From two levels down, an import steps out of one folder only and misses its file. -/
theorem resolve_importPath_deep :
    let e : Entity := { name := "User", ns := "accounts" }
    Nested e.ns ∧ Ordinary e.exportedName ∧ Nested "shop/orders" ∧
      targetPath e = ⟨"accounts/User.ts"⟩ ∧
      (Disk.Path.mk "shop/orders").resolve ⟨importPath e.exportedName e.ns "shop/orders"⟩ =
        ⟨"shop/accounts/User.ts"⟩ := by
  decide +kernel

end SchemaInterfaces.TypeScript
