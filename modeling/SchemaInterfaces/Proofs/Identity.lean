import SchemaInterfaces.Proofs.Catalog

/-! Qualified names as identities. A namespace and a name joined by a point tell entities apart as
long as neither holds a point; two other pairs may share one joined name. -/
namespace SchemaInterfaces.Schema
variable {es : List Entity} {ns name : String}

/-- Around a point that both sides keep out of their parts, a joined name has one reading. -/
theorem parts_of_qualifiedName {e : Entity} (hns : '.' ∉ ns.toList) (hname : '.' ∉ name.toList)
    (h : e.qualifiedName = ns ++ "." ++ name) : e.ns = ns ∧ e.name = name := by
  have hl := congrArg String.toList h
  simp only [Entity.qualifiedName, String.toList_append] at hl
  change (e.ns.toList ++ ['.']) ++ e.name.toList = (ns.toList ++ ['.']) ++ name.toList at hl
  rw [List.append_assoc, List.append_assoc] at hl
  obtain ⟨m, hm, hr⟩ | ⟨m, hm, hr⟩ := List.append_eq_append_iff.mp hl
  · cases m with
    | nil => simp_all [String.toList_inj]
    | cons c m =>
      have hc : c = '.' := by simp_all
      exact (hns (by simp [hm, hc])).elim
  · cases m with
    | nil => simp_all [String.toList_inj]
    | cons c m =>
      have hc : name.toList = m ++ '.' :: e.name.toList := by simp_all
      exact (hname (by simp [hc])).elim

/-- The last of the entities with a joined name that has both parts as asked is the last of those
with both parts. -/
theorem getLast?_pair_of_joined {e : Entity}
    (he : (es.filter (·.qualifiedName = ns ++ "." ++ name)).getLast? = some e)
    (hns : e.ns = ns) (hname : e.name = name) :
    (es.filter fun e => e.ns = ns ∧ e.name = name).getLast? = some e := by
  obtain ⟨before, hb⟩ := List.getLast?_eq_some_iff.mp he
  have hsub : es.filter (fun e => e.ns = ns ∧ e.name = name) =
      (es.filter (·.qualifiedName = ns ++ "." ++ name)).filter
        fun e => e.ns = ns ∧ e.name = name := by
    rw [List.filter_filter]
    apply List.filter_congr
    intro d _
    by_cases hd : d.ns = ns ∧ d.name = name <;> simp [hd, Entity.qualifiedName]
  rw [hsub, hb, List.filter_append]
  simp [hns, hname]

/-- The last entity with a joined name and the last with the pair are the same, present or not,
exactly if the former has the pair. -/
theorem getLast?_joined_eq_pair_iff :
    (es.filter (·.qualifiedName = ns ++ "." ++ name)).getLast? =
      (es.filter fun e => e.ns = ns ∧ e.name = name).getLast? ↔
    ∀ e, (es.filter (·.qualifiedName = ns ++ "." ++ name)).getLast? = some e →
      e.ns = ns ∧ e.name = name := by
  constructor
  · intro h e he
    have hmem := List.mem_of_getLast? (h ▸ he)
    simpa using (List.mem_filter.mp hmem).2
  · intro h
    cases hlast : (es.filter (·.qualifiedName = ns ++ "." ++ name)).getLast? with
    | some e => rw [getLast?_pair_of_joined hlast (h e hlast).1 (h e hlast).2]
    | none =>
      have hnone := List.getLast?_eq_none_iff.mp hlast
      symm
      rw [List.getLast?_eq_none_iff, List.filter_eq_nil_iff]
      intro e he hpair
      have : e.ns = ns ∧ e.name = name := by simpa using hpair
      exact List.filter_eq_nil_iff.mp hnone e he (by simp [Entity.qualifiedName, this])

/-- Looking up by namespace and name finds the last entity registered with both, exactly if the
last one whose joined name is the same has that very namespace and name. So it is if neither holds a
point. A registration keeps the entities of other pairs in place, exactly those with another joined
name. -/
theorem get?_last_registered_iff (es : List Entity) (ns name : String) :
    ((Catalog.ofList es).get? ns name = (es.filter fun e => e.ns = ns ∧ e.name = name).getLast? ↔
      ∀ e, (es.filter (·.qualifiedName = ns ++ "." ++ name)).getLast? = some e →
        e.ns = ns ∧ e.name = name) ∧
    ('.' ∉ ns.toList → '.' ∉ name.toList → (Catalog.ofList es).get? ns name =
      (es.filter fun e => e.ns = ns ∧ e.name = name).getLast?) ∧
    ∀ e x, x ∈ (Catalog.ofList es).entities → (x.ns, x.name) ≠ (e.ns, e.name) →
      (x ∈ ((Catalog.ofList es).register e).entities ↔ x.qualifiedName ≠ e.qualifiedName) := by
  rw [Catalog.get?_ofList]
  refine ⟨getLast?_joined_eq_pair_iff, ?_, ?_⟩
  · intro hns hname
    apply getLast?_joined_eq_pair_iff.mpr
    intro e he
    have hmem := List.mem_of_getLast? he
    exact parts_of_qualifiedName hns hname (by simpa using (List.mem_filter.mp hmem).2)
  · intro e x hx hne
    have hxe : x ≠ e := by
      rintro rfl
      exact hne rfl
    exact Catalog.mem_register_iff (Catalog.indexed_ofList es) hx hxe

/-- Two pairs with one joined name: the first entity is lost, and its pair finds the second. -/
theorem get?_clash :
    let es : List Entity := [{ name := "c", ns := "a.b" }, { name := "b.c", ns := "a" }]
    (Catalog.ofList es).entities = [{ name := "b.c", ns := "a" }] ∧
      (Catalog.ofList es).get? "a.b" "c" = some { name := "b.c", ns := "a" } ∧
      (es.filter fun e => e.ns = "a.b" ∧ e.name = "c").getLast? =
        some { name := "c", ns := "a.b" } := by
  decide

end SchemaInterfaces.Schema
