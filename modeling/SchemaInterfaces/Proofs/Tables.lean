import SchemaInterfaces.Proofs.Keyed
import SchemaInterfaces.Toml.Document

/-! The last table of a document, and the settings below its header. -/
namespace SchemaInterfaces.Toml

variable {front members settings : List (String × Node)} {name key : String} {origin : Origin}
  {d e : Document} {t u : Table} {f : Table → Option Table} {made : Origin} {way : List String}
  {k : Key} {v : Node}

namespace Table

theorem add_origin (h : t.add k v = some u) : u.origin = t.origin := by
  unfold add at h
  split at h
  · contradiction
  · rw [← Option.some.inj h]
    rfl

/-- What is changed further in leaves a table of its kind. -/
theorem within_origin (hf : ∀ t u, f t = some u → u.origin = t.origin)
    (h : t.within made way f = some u) : u.origin = t.origin := by
  have hput : ∀ {c : Option Table} {g : Table → Node} {name : String},
      (c.bind fun child => some (t.put name (g child))) = some u → u.origin = t.origin := by
    intro c g name hc
    obtain ⟨child, -, hu⟩ := Option.bind_eq_some_iff.mp hc
    rw [← Option.some.inj hu]
    rfl
  cases way with
  | nil => exact hf t u h
  | cons name way =>
    unfold within at h
    split at h
    · exact hput h
    · split at h
      · contradiction
      · exact hput h
    · split at h
      · contradiction
      · exact hput h
    · contradiction

theorem set_origin (h : t.set k v = some u) : u.origin = t.origin :=
  within_origin (fun _ _ => add_origin) h

/-- The table behind all others is reached by its name. -/
theorem within_last (hname : name ∉ front.map Prod.fst) :
    within .implied [name] f ⟨origin, front ++ [(name, .table .header members)]⟩ =
      (f ⟨.header, members⟩).map fun child => ⟨origin, front ++ [(name, child.node)]⟩ := by
  unfold within
  rw [get?, Keyed.lookup_between hname]
  simp only [reduceCtorEq, and_false, or_false, if_false, within]
  cases f ⟨.header, members⟩ with
  | none => rfl
  | some child =>
    change some (Table.put _ name _) = _
    rw [put, Keyed.put_between hname]
    rfl

end Table

namespace Document

/-- The last table of the document is the one of this header, and settings are put into it. -/
structure InTable (name : String) (d : Document) : Prop where
  here : d.here = [name]
  root : ∃ origin front members, d.root = ⟨origin, front ++ [(name, .table .header members)]⟩ ∧
    name ∉ front.map Prod.fst

/-- A setting is put into the last table. -/
theorem add_setting (hname : name ∉ front.map Prod.fst) (k : Key) (v : Node) :
    add ⟨⟨origin, front ++ [(name, .table .header members)]⟩, [name]⟩ (.setting k v) =
      (Table.set k v ⟨.header, members⟩).map fun child =>
        ⟨⟨origin, front ++ [(name, child.node)]⟩, [name]⟩ := by
  change ((Table.within .implied [name] (Table.set k v) _).bind
    fun root => some (Document.mk root [name])) = _
  rw [Table.within_last hname]
  cases Table.set k v ⟨.header, members⟩ <;> rfl

theorem inTable_of_table (h : d.add (.table ⟨[], name⟩) = some e) : e.InTable name := by
  obtain ⟨root, hroot, he⟩ := Option.bind_eq_some_iff.mp h
  rw [← Option.some.inj he]
  refine ⟨rfl, ?_⟩
  unfold Table.openTable Table.within at hroot
  dsimp only at hroot
  split at hroot
  · rename_i hnone
    have hnew : name ∉ d.root.members.map Prod.fst := Keyed.lookup_eq_none_iff.mp hnone
    refine ⟨d.root.origin, d.root.members, [], ?_, hnew⟩
    rw [← Option.some.inj hroot, Table.put, Keyed.put_of_notMem hnew]
  · rename_i members _
    refine ⟨d.root.origin, Keyed.erase name d.root.members, members,
      (Option.some.inj hroot).symm, ?_⟩
    simp [Keyed.erase]
  · contradiction

theorem inTable_of_setting (hd : d.InTable name) (h : d.add (.setting k v) = some e) :
    e.InTable name := by
  obtain ⟨root, here⟩ := d
  obtain ⟨hhere, origin, front, members, hroot, hname⟩ := hd
  obtain rfl : here = [name] := hhere
  obtain rfl : root = _ := hroot
  rw [add_setting hname, Option.map_eq_some_iff] at h
  obtain ⟨child, hchild, rfl⟩ := h
  refine ⟨rfl, origin, front, child.members, ?_, hname⟩
  have hheader : child.origin = .header := Table.set_origin hchild
  rw [Table.node, hheader]

theorem inTable_of_settings {sts : List Statement} (hsts : ∀ st ∈ sts, ∃ k v, st = .setting k v)
    (hd : d.InTable name) (h : sts.foldlM add d = some e) : e.InTable name := by
  induction sts generalizing d with
  | nil =>
    obtain rfl : d = e := Option.some.inj h
    exact hd
  | cons st sts ih =>
    rw [List.forall_mem_cons] at hsts
    obtain ⟨⟨k, v, rfl⟩, hsts⟩ := hsts
    rw [List.foldlM_cons] at h
    obtain ⟨next, hnext, h⟩ := Option.bind_eq_some_iff.mp h
    exact ih hsts (inTable_of_setting hd hnext) h

/-! Settings under new keys. -/

/-- The header of a table, and a setting on each line below it. -/
def tableStatements (name : String) (settings : List (String × Node)) : List Statement :=
  .table ⟨[], name⟩ :: settings.map fun m => .setting ⟨[], m.1⟩ m.2

theorem set_new (hkey : key ∉ members.map Prod.fst) (v : Node) :
    Table.set ⟨[], key⟩ v ⟨.header, members⟩ = some ⟨.header, members ++ [(key, v)]⟩ := by
  rw [Table.set, Table.within, Table.add, Table.get?, Keyed.lookup_eq_none_iff.mpr hkey, Table.put,
    Keyed.put_of_notMem hkey]
  simp

theorem foldlM_settings (hname : name ∉ front.map Prod.fst)
    (hkeys : ((members ++ settings).map Prod.fst).Nodup) :
    (settings.map fun m => .setting ⟨[], m.1⟩ m.2).foldlM add
        ⟨⟨origin, front ++ [(name, .table .header members)]⟩, [name]⟩ =
      some ⟨⟨origin, front ++ [(name, .table .header (members ++ settings))]⟩, [name]⟩ := by
  induction settings generalizing members with
  | nil => simp
  | cons m settings ih =>
    have hkey : m.1 ∉ members.map Prod.fst := by
      rw [List.map_append, List.nodup_append] at hkeys
      exact fun hm => hkeys.2.2 m.1 hm m.1 (by simp) rfl
    have hmore : ((members ++ [m] ++ settings).map Prod.fst).Nodup := by simpa using hkeys
    have hrest := ih hmore
    rw [List.map_cons, List.foldlM_cons, add_setting hname, set_new hkey]
    simpa [Table.node] using hrest

/-- Settings under the header of a new table are the members of that table. -/
theorem foldlM_table (name : String) (settings : List (String × Node))
    (hroot : d.root = ⟨origin, front⟩) (hname : name ∉ front.map Prod.fst)
    (hkeys : (settings.map Prod.fst).Nodup) :
    (tableStatements name settings).foldlM add d =
      some ⟨⟨origin, front ++ [(name, .table .header settings)]⟩, [name]⟩ := by
  have hopen : d.root.openTable ⟨[], name⟩ =
      some ⟨origin, front ++ [(name, .table .header [])]⟩ := by
    rw [hroot, Table.openTable, Table.within, Table.get?, Keyed.lookup_eq_none_iff.mpr hname,
      Table.put, Keyed.put_of_notMem hname]
  have hadd : d.add (.table ⟨[], name⟩) =
      some ⟨⟨origin, front ++ [(name, .table .header [])]⟩, [name]⟩ := by
    change (d.root.openTable ⟨[], name⟩).bind (fun root => some (Document.mk root [name])) = _
    rw [hopen]
    rfl
  rw [tableStatements, List.foldlM_cons, hadd]
  exact foldlM_settings hname (by simpa using hkeys)

end Document
end SchemaInterfaces.Toml
