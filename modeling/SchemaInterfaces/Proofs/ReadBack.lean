import SchemaInterfaces.Proofs.InterfaceReader
import SchemaInterfaces.Proofs.MemberNames
import SchemaInterfaces.Proofs.ReturnTypes

/-! Files of entities read back: where names are words and namespaces are on one line, the text of a
file tells everything that it was made of. -/
namespace SchemaInterfaces.Text

variable {c : Char} {s : List Char} {n k : Nat} {runs : List (Nat × Nat × Nat × Nat)}
  {expansions : List (Nat × List Nat)}

theorem eq_of_ofNat_eq_newline (h : Char.ofNat n = '\n') : n = 0x0A := by
  by_cases hn : n.isValidChar
  · rw [Char.ofNat, dif_pos hn] at h
    exact congrArg Char.toNat h
  · rw [Char.ofNat, dif_neg hn] at h
    contradiction

theorem image_le_of_mapRun? (h : mapRun? n runs = some k) : ∃ run ∈ runs, run.2.2.2 ≤ k := by
  induction runs with
  | nil => contradiction
  | cons run runs ih =>
    obtain ⟨first, last, step, image⟩ := run
    rw [mapRun?] at h
    split at h
    · contradiction
    · split at h
      · obtain rfl := Option.some.inj h
        exact ⟨_, List.mem_cons_self, Nat.le_add_right ..⟩
      · obtain ⟨run, hrun, hle⟩ := ih h
        exact ⟨run, List.mem_cons_of_mem _ hrun, hle⟩

/-- Only a line end becomes a line end, if the tables lead to none. -/
theorem newline_notMem_mapCase (hruns : ∀ run ∈ runs, 0x0A < run.2.2.2)
    (hexpansions : ∀ entry ∈ expansions, 0x0A ∉ entry.2) (hc : c ≠ '\n') :
    '\n' ∉ mapCase runs expansions c := by
  unfold mapCase
  split
  · rename_i ns hns
    obtain ⟨before, after, hentry, -⟩ := List.lookup_eq_some_iff.mp hns
    intro hmem
    obtain ⟨n, hn, hnewline⟩ := List.mem_map.mp hmem
    rw [eq_of_ofNat_eq_newline hnewline] at hn
    exact hexpansions (c.toNat, ns) (by simp [hentry]) hn
  · rw [List.mem_singleton]
    cases hrun : mapRun? c.toNat runs with
    | none => simpa using hc.symm
    | some k =>
      intro hnewline
      have hk : k = 0x0A := eq_of_ofNat_eq_newline hnewline.symm
      obtain ⟨run, hmem, hle⟩ := image_le_of_mapRun? hrun
      have hlt := hruns run hmem
      omega

theorem newline_notMem_upper (hc : c ≠ '\n') : '\n' ∉ upper c :=
  newline_notMem_mapCase (by decide +kernel) (by decide +kernel) hc

theorem newline_notMem_lower (hc : c ≠ '\n') : '\n' ∉ lower c :=
  newline_notMem_mapCase (by decide +kernel) (by decide +kernel) hc

theorem newline_notMem_capitalize (h : '\n' ∉ s) : '\n' ∉ capitalize s := by
  cases s with
  | nil => exact h
  | cons c s =>
    rw [List.mem_cons, not_or] at h
    rw [capitalize, List.mem_append, not_or]
    refine ⟨newline_notMem_upper (Ne.symm h.1), ?_⟩
    intro hmem
    obtain ⟨d, hd, hnewline⟩ := List.mem_flatMap.mp hmem
    exact newline_notMem_lower (ne_of_mem_of_not_mem hd h.2) hnewline

end SchemaInterfaces.Text

namespace SchemaInterfaces.TypeScript
open Schema Text

/-- The names that a relation gives are words, and its namespace is on one line. -/
structure WordedRelation (rel : Relation) : Prop where
  entity : WordText rel.entity
  exportedName : ∀ name, rel.exportedName = some name → WordText name
  ns : ∀ ns, rel.ns = some ns → '\n' ∉ ns.toList

/-- The names in an entity are words, and its namespaces are on one line. Nothing is said of the
choices of its fields. -/
structure Worded (e : Entity) : Prop where
  name : WordText e.name
  ns : '\n' ∉ e.ns.toList
  fields : ∀ f ∈ e.fields, WordText f.name
  relations : ∀ f ∈ e.fields, ∀ rel, f.relation = some rel → WordedRelation rel

/-- Whatever is inferred for a method is on one line. -/
def OneLine (infer : Inferrer) : Prop := ∀ m answer, infer m = some answer → '\n' ∉ answer.toList

variable {infer : Inferrer} {owner e d : Entity} {f : Field} {rel : Relation} {t : FieldType}
  {i j : Import} {u v : Interface} {a b : Fallbacks}

/-- The type of a field is the name of its enum, fixed by its kind, the exported name that it leads
to or a list of such, what is inferred for a method, or `any`. -/
theorem expr_of_fieldType (ht : fieldType infer owner f = .ok t) :
    t.expr = enumName owner.name f.name ∨ scalarType? f.kind = some t.expr ∨
      (∃ target, f.relation.bind (target? owner) = some target ∧
        (t.expr = target.exported ∨ t.expr = listOf target.exported)) ∨
      (∃ m, infer m = some t.expr) ∨ t.expr = anyType := by
  have hreference : ∀ many, (·.fieldType many) <$> referenceOf owner f = .ok t →
      ∃ target, f.relation.bind (target? owner) = some target ∧
        (t.expr = target.exported ∨ t.expr = listOf target.exported) := by
    intro many h
    rw [referenceOf] at h
    cases htarget : f.relation.bind (target? owner) with
    | none => simp [htarget, Functor.map, Except.map] at h
    | some target =>
      refine ⟨target, rfl, ?_⟩
      obtain rfl : (Reference.resolve target.exported target.ns owner.ns
          owner.exportedName).fieldType many = t := by
        simpa [htarget, Functor.map, Except.map] using h
      cases many <;> simp [Reference.fieldType, name_resolve]
  unfold fieldType at ht
  split at ht
  · cases ht
    exact .inl rfl
  · split at ht
    · rename_i expr hexpr
      cases ht
      exact .inr (.inl hexpr)
    · split at ht
      · exact .inr (.inr (.inl (hreference _ ht)))
      · exact .inr (.inr (.inl (hreference _ ht)))
      · cases ht
        cases hm : (owner.method? f.methodName).bind infer with
        | none => simp [computedType, hm]
        | some answer =>
          obtain ⟨m, -, hanswer⟩ := Option.bind_eq_some_iff.mp hm
          simp only [computedType, hm, Option.getD_some]
          exact .inr (.inr (.inr (.inl ⟨m, hanswer⟩)))
      · cases ht
        simp

theorem wordText_trim {s : String} (h : WordText s) : WordText (Text.trim s) := by
  rwa [Text.trim, trimChars_of_wordText h, String.ofList_toList]

theorem wordText_exportedName (source : Source) {s : String} (h : WordText s) :
    WordText (source.exportedName s) := by
  cases source with
  | models => exact h
  | serializers => exact h.append (by decide)

theorem WordedRelation.wordText_exportedFrom (h : WordedRelation rel) (owner : Entity) :
    WordText (rel.exportedFrom owner) := by
  rw [Relation.exportedFrom]
  cases hname : (rel.exportedName.map Text.trim).filter (· ≠ "") with
  | none => exact wordText_exportedName _ (wordText_trim h.entity)
  | some name =>
    obtain ⟨raw, hraw, rfl⟩ := Option.map_eq_some_iff.mp (Option.filter_eq_some_iff.mp hname).1
    exact wordText_trim (h.exportedName raw hraw)

theorem WordedRelation.newline_notMem_spaceFrom (h : WordedRelation rel)
    (howner : '\n' ∉ owner.ns.toList) : '\n' ∉ (rel.spaceFrom owner).toList := by
  rw [Relation.spaceFrom]
  cases hns : rel.ns.filter (· ≠ "") with
  | none => exact howner
  | some ns => exact h.ns ns (Option.filter_eq_some_iff.mp hns).1

/-- A field of a worded entity leads to an exported name that is a word. -/
theorem Worded.target (he : Worded e) (hf : f ∈ e.fields) {target : Target}
    (h : f.relation.bind (target? e) = some target) :
    WordText target.exported ∧ '\n' ∉ target.ns.toList := by
  obtain ⟨rel, hrel, htarget⟩ := Option.bind_eq_some_iff.mp h
  have hgiven : Text.trim rel.entity ≠ "" := by
    intro hblank
    rw [target?_eq_none_iff.mpr hblank] at htarget
    contradiction
  rw [target?_eq_some hgiven] at htarget
  obtain rfl := Option.some.inj htarget
  have hworded := he.relations f hf rel hrel
  exact ⟨hworded.wordText_exportedFrom e, hworded.newline_notMem_spaceFrom he.ns⟩

theorem newline_notMem_enumName (he : Worded e) (hf : f ∈ e.fields) :
    '\n' ∉ (enumName e.name f.name).toList := by
  have hname : '\n' ∉ e.name.toList := he.name.notMem (by decide)
  have hfield : '\n' ∉ capitalize f.name.toList :=
    newline_notMem_capitalize ((he.fields f hf).notMem (by decide))
  simp [enumName, hname, hfield]

theorem newline_notMem_scalarType? {k : Kind} {expr : String} (h : scalarType? k = some expr) :
    '\n' ∉ expr.toList := by
  cases k <;> simp only [scalarType?, Option.some.injEq, reduceCtorEq] at h <;> subst h <;> decide

theorem oneLine_heuristic : OneLine heuristic := by
  intro m answer h
  rcases heuristic_eq_some h with h | ⟨raw, -, -, hends⟩
  · have hplain : ∀ t ∈ plainTypes, '\n' ∉ t.toList := by decide
    exact hplain answer h
  · exact hends.name.word.notMem (by decide)

theorem newline_notMem_expr (he : Worded e) (hf : f ∈ e.fields)
    (hinfer : OneLine infer) (ht : fieldType infer e f = .ok t) : '\n' ∉ t.expr.toList := by
  rcases expr_of_fieldType ht with h | h | ⟨target, htarget, h⟩ | ⟨m, h⟩ | h
  · rw [h]
    exact newline_notMem_enumName he hf
  · exact newline_notMem_scalarType? h
  · have hexported : '\n' ∉ target.exported.toList := (he.target hf htarget).1.notMem (by decide)
    rcases h with h | h <;> rw [h]
    · exact hexported
    · simp [listOf, hexported]
  · exact hinfer m _ h
  · rw [h]
    decide

theorem newline_notMem_importPath {exported related current : String}
    (hexported : '\n' ∉ exported.toList) (hrelated : '\n' ∉ related.toList) :
    '\n' ∉ (importPath exported related current).toList := by
  unfold importPath
  split
  · simp [hexported]
  · have hslashed : ∀ c ∈ related.toList, (if c = '\\' then '/' else c) ≠ '\n' := by
      intro c hc
      split
      · decide
      · exact ne_of_mem_of_not_mem hc hrelated
    simpa [hexported] using hslashed

theorem worded_of_mem_importsOf (he : Worded e) (h : i ∈ importsOf infer e) :
    WordText i.name ∧ '\n' ∉ i.render.toList := by
  obtain ⟨f, hf, hi⟩ := List.mem_filterMap.mp h
  obtain ⟨-, -, target, htarget, -, rfl⟩ := importOf?_eq_some_iff.mp hi
  obtain ⟨hexported, hns⟩ := he.target hf htarget
  have hname : '\n' ∉ target.exported.toList := hexported.notMem (by decide)
  refine ⟨hexported, ?_⟩
  simp [Import.render, hname, newline_notMem_importPath hname hns]

/-- Of imports with names that are words, one text is that of one import. -/
theorem Import.eq_of_render_eq (hi : WordText i.name) (hj : WordText j.name)
    (h : i.render = j.render) : i = j := by
  have htext : i.name.toList ++ ' ' :: ("\x7d from \"".toList ++ i.path.toList ++ "\";".toList) =
      j.name.toList ++ ' ' :: ("\x7d from \"".toList ++ j.path.toList ++ "\";".toList) := by
    have htext := congrArg String.toList h
    simpa [Import.render] using htext
  -- The name ends at the first blank, and behind that the path alone varies.
  have hcut := congrArg (cut (· == ' ')) htext
  rw [cut_append _ (beq_eq_false_of_notMem (hi.notMem (by decide))) (by decide),
    cut_append _ (beq_eq_false_of_notMem (hj.notMem (by decide))) (by decide)] at hcut
  obtain ⟨hname, hpath⟩ := Prod.mk.inj hcut
  obtain ⟨name, path⟩ := i
  obtain ⟨other, way⟩ := j
  obtain rfl : name = other := String.toList_inj.mp hname
  obtain rfl : path = way := by simpa [String.toList_inj] using hpath
  rfl

theorem Worded.legible_enum (he : Worded e) {d : EnumDecl} (h : d ∈ enumsOf e) : d.Legible := by
  refine legible_of_mem_enumsOf h ?_
  obtain ⟨f, hf, hd⟩ := List.mem_filterMap.mp h
  obtain ⟨-, rfl⟩ := enumOf?_eq_some_iff.mp hd
  exact newline_notMem_enumName he hf

namespace Interface

theorem legible_ofEntity (he : Worded e) (hinfer : OneLine infer)
    (h : ofEntity infer e = .ok (u, b)) : u.Legible where
  name := by
    rw [(adds_of_ofEntity h).name]
    exact he.name.notMem (by decide)
  imports := by
    intro line hline
    obtain ⟨i, hi, rfl⟩ := (mem_imports_iff h).mp hline
    exact ⟨i, rfl, (worded_of_mem_importsOf he hi).2⟩
  enums := by
    intro text htext
    obtain ⟨d, hd, rfl⟩ := (mem_enums_iff h).mp htext
    exact ⟨d, rfl, he.legible_enum hd⟩
  fields := by
    intro line hline
    rw [lines_of_ofEntity h] at hline
    obtain ⟨f, hf, hline⟩ := List.mem_filterMap.mp hline
    obtain ⟨t, ht⟩ := exists_ofEntity_iff.mp ⟨_, h⟩ f hf
    obtain rfl : (f.name, t.expr) = line :=
      Option.some.inj ((lineOf?_of_fieldType ht).symm.trans hline)
    exact ⟨(he.fields f hf).notMem (by decide), newline_notMem_expr he hf hinfer ht⟩

/-- Entities of one interface import and declare the same. -/
theorem mem_of_same_interface (he : Worded e) (hd : Worded d) (hu : ofEntity infer e = .ok (u, a))
    (hv : ofEntity infer d = .ok (u, b)) :
    (∀ i ∈ importsOf infer e, i ∈ importsOf infer d) ∧ ∀ c ∈ enumsOf e, c ∈ enumsOf d := by
  constructor
  · intro i hi
    have hline : i.render ∈ u.imports := (mem_imports_iff hu).mpr ⟨i, hi, rfl⟩
    obtain ⟨j, hj, hrender⟩ := (mem_imports_iff hv).mp hline
    obtain rfl := Import.eq_of_render_eq (worded_of_mem_importsOf hd hj).1
      (worded_of_mem_importsOf he hi).1 hrender
    exact hj
  · intro c hc
    have htext : c.render ∈ u.enums := (mem_enums_iff hu).mpr ⟨c, hc, rfl⟩
    obtain ⟨r, hr, hrender⟩ := (mem_enums_iff hv).mp htext
    obtain rfl := EnumDecl.eq_of_render_eq (hd.legible_enum hr) (he.legible_enum hc) hrender
    exact hr

/-- The file of an entity in which names are words and namespaces are on one line is read back,
whatever the labels and the values of its choices hold. So it is the file of another such entity
only if the two have one interface, of one name and with the same lines in one order, and the same
imports and the same enums. -/
theorem ofEntity_read_back (he : Worded e) (hu : ofEntity heuristic e = .ok (u, a)) :
    read? u.render = some u ∧
      ∀ d v b, Worded d → ofEntity heuristic d = .ok (v, b) → u.render = v.render →
        u = v ∧ (∀ i, i ∈ importsOf heuristic e ↔ i ∈ importsOf heuristic d) ∧
          ∀ c, c ∈ enumsOf e ↔ c ∈ enumsOf d := by
  have hlegible : u.Legible := legible_ofEntity he oneLine_heuristic hu
  refine ⟨(reads_render hlegible).whole?, ?_⟩
  intro d v b hd hv h
  obtain rfl : u = v := eq_of_render_eq hlegible (legible_ofEntity hd oneLine_heuristic hv) h
  obtain ⟨himports, henums⟩ := mem_of_same_interface he hd hu hv
  obtain ⟨himports', henums'⟩ := mem_of_same_interface hd he hv hu
  exact ⟨rfl, fun i => ⟨himports i, himports' i⟩, fun c => ⟨henums c, henums' c⟩⟩

/-- The parcel with fields that may be `null`, which no type shows. -/
theorem parcel_read_back :
    let other : Entity := { parcel with fields := parcel.fields.map Field.asNullable }
    parcel ≠ other ∧ Worded parcel ∧ Worded other ∧
      ∃ u a v b, ofEntity heuristic parcel = .ok (u, a) ∧ ofEntity heuristic other = .ok (v, b) ∧
        read? u.render = some u ∧ u.render = v.render ∧ u = v ∧
        ∀ c, c ∈ enumsOf parcel ↔ c ∈ enumsOf other := by
  intro other
  have hrelation : WordedRelation { entity := "User", ns := some "accounts" } :=
    ⟨by decide, by simp, by decide⟩
  have hparcel : Worded parcel := ⟨by decide, by decide, by decide, by
    simpa [parcel, itsSender, Field.toOne] using hrelation⟩
  have hother : Worded other := ⟨by decide, by decide, by decide, by
    simpa [other, parcel, itsSender, Field.toOne, Field.asNullable] using hrelation⟩
  have hok : (ofEntity heuristic parcel).toBool ∧ (ofEntity heuristic other).toBool := by
    decide +kernel
  have htexts : (ofEntity heuristic parcel).map (·.1.render) =
      (ofEntity heuristic other).map (·.1.render) := by
    decide +kernel
  cases hu : ofEntity heuristic parcel with
  | error cause => simp [hu, Except.toBool] at hok
  | ok w =>
    cases hv : ofEntity heuristic other with
    | error cause => simp [hv, Except.toBool] at hok
    | ok x =>
      obtain ⟨u, a⟩ := w
      obtain ⟨v, b⟩ := x
      have htext : u.render = v.render := by simpa [hu, hv, Except.map] using htexts
      obtain ⟨hread, hall⟩ := ofEntity_read_back hparcel hu
      obtain ⟨hsame, -, henums⟩ := hall other v b hother hv htext
      exact ⟨by decide, hparcel, hother, u, a, v, b, rfl, rfl, hread, htext, hsame, henums⟩

/-- A value that looks like the end of its enum and an interface behind it. -/
example :
    let forged := "a',\n\x7d\n\nexport interface Order \x7b\n\x7d\n\n"
    let state : Field := { name := "state", kind := .choice, choices := [⟨forged, "A"⟩] }
    let order : Entity := { name := "Order", ns := "shop", fields := [state] }
    (ofEntity heuristic order).map (fun w => read? w.1.render) =
      (ofEntity heuristic order).map (fun w => some w.1) := by
  decide +kernel

end Interface

end SchemaInterfaces.TypeScript
