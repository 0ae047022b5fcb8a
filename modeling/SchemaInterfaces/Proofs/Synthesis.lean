import SchemaInterfaces.TypeScript.Interface

/-! What the interface of an entity takes from its fields: the imports that their types need, and
the names of those whose type is not known. -/
namespace SchemaInterfaces.TypeScript
open Schema

/-- The import that the type of a field needs, if there is one. -/
def importOf? (infer : Inferrer) (owner : Entity) (f : Field) : Option Import :=
  match fieldType infer owner f with
  | .ok ⟨_, some (.imported i)⟩ => some i
  | _ => none

def hasAnyType (infer : Inferrer) (owner : Entity) (f : Field) : Bool :=
  match fieldType infer owner f with
  | .ok t => t.isFallback
  | .error _ => false

/-- The imports of an entity, in the order of the fields that need them. -/
def importsOf (infer : Inferrer) (e : Entity) : List Import :=
  e.fields.filterMap (importOf? infer e)

/-- The full names of the fields of an entity whose type is not known, in order. -/
def anyFields (infer : Inferrer) (e : Entity) : List String :=
  (e.fields.filter (hasAnyType infer e)).map fun f => fieldPath e.ns e.name f.name

theorem mem_insertSorted {s t : String} {ss : List String} :
    t ∈ insertSorted s ss ↔ t = s ∨ t ∈ ss := by
  induction ss with
  | nil => simp [insertSorted]
  | cons r rest ih =>
    unfold insertSorted
    split
    · simp
    · split
      · rename_i h
        subst h
        simp
      · simp only [List.mem_cons, ih]
        exact or_left_comm

variable {infer : Inferrer} {owner : Entity} {f : Field} {i : Import} {t : Target}

theorem isRelation_iff {k : Kind} : k.isRelation ↔ k = .toOne ∨ k = .toMany := by
  cases k <;> simp [Kind.isRelation]

/-- A relation without choices has a type exactly if it leads somewhere. -/
theorem fieldType_relation (infer : Inferrer) (hk : f.kind.isRelation) (hc : f.choices = []) :
    (∃ ft, fieldType infer owner f = .ok ft) ↔
      ∃ t, f.relation.bind (target? owner) = some t := by
  have hn : f.hasChoices = false := by simp [Field.hasChoices, hc]
  rcases isRelation_iff.mp hk with hk | hk <;>
    cases ht : f.relation.bind (target? owner) <;>
      simp [fieldType, hn, hk, scalarType?, referenceOf, ht, Functor.map, Except.map]

/-- Every other field has a type. -/
theorem fieldType_of_not_relation (infer : Inferrer) (h : ¬ (f.kind.isRelation ∧ f.choices = [])) :
    ∃ ft, fieldType infer owner f = .ok ft := by
  unfold fieldType
  split
  · exact ⟨_, rfl⟩
  · rename_i hn
    have hk : ¬ f.kind.isRelation := fun hk => h ⟨hk, by simpa [Field.hasChoices] using hn⟩
    cases hkind : f.kind <;> simp_all [scalarType?, Kind.isRelation]

theorem imported_resolve_iff {exported related current name : String} :
    (Reference.resolve exported related current name).imported = some i ↔
      exported ≠ name ∧ i = ⟨exported, importPath exported related current⟩ := by
  unfold Reference.resolve
  split <;> simp_all [eq_comm]

theorem importOf?_relation (hk : f.kind.isRelation) (hc : f.choices = [])
    (ht : f.relation.bind (target? owner) = some t) :
    importOf? infer owner f =
      (Reference.resolve t.exported t.ns owner.ns owner.exportedName).imported := by
  have hn : f.hasChoices = false := by simp [Field.hasChoices, hc]
  rcases isRelation_iff.mp hk with hk | hk <;>
    cases hi : (Reference.resolve t.exported t.ns owner.ns owner.exportedName).imported <;>
      simp [importOf?, fieldType, hn, hk, scalarType?, referenceOf, ht, hi, Reference.fieldType,
        Functor.map, Except.map]

theorem relation_of_importOf? (h : importOf? infer owner f = some i) :
    f.kind.isRelation ∧ f.choices = [] ∧ ∃ t, f.relation.bind (target? owner) = some t := by
  have hc : f.hasChoices = false := by
    cases hc : f.hasChoices
    · rfl
    · simp [importOf?, fieldType, hc] at h
  have hk : f.kind.isRelation := by
    cases hkind : f.kind <;> simp_all [importOf?, fieldType, scalarType?, Kind.isRelation]
  have hc : f.choices = [] := by simpa [Field.hasChoices] using hc
  refine ⟨hk, hc, (fieldType_relation infer hk hc).mp ?_⟩
  unfold importOf? at h
  split at h
  · rename_i he
    exact ⟨_, he⟩
  · contradiction

/-- A field needs an import exactly if it is a relation without choices that leads to another name
than its owner's. -/
theorem importOf?_eq_some_iff : importOf? infer owner f = some i ↔
    f.kind.isRelation ∧ f.choices = [] ∧ ∃ t, f.relation.bind (target? owner) = some t ∧
      t.exported ≠ owner.exportedName ∧
      i = ⟨t.exported, importPath t.exported t.ns owner.ns⟩ := by
  constructor
  · intro h
    obtain ⟨hk, hc, t, ht⟩ := relation_of_importOf? h
    rw [importOf?_relation hk hc ht] at h
    exact ⟨hk, hc, t, ht, imported_resolve_iff.mp h⟩
  · rintro ⟨hk, hc, t, ht, h⟩
    rw [importOf?_relation hk hc ht]
    exact imported_resolve_iff.mpr h

namespace Interface
variable {infer : Inferrer} {owner e : Entity} {f : Field} {fs : List Field} {t : FieldType}
  {u v : Interface} {b d : Fallbacks}

theorem name_addField (u : Interface) (name : String) (t : FieldType) :
    (u.addField name t).name = u.name := by
  obtain ⟨_, _ | _ | _⟩ := t <;> rfl

theorem mem_imports_addField (ht : fieldType infer owner f = .ok t) {line : String} :
    line ∈ (u.addField f.name t).imports ↔
      line ∈ u.imports ∨ ∃ i, importOf? infer owner f = some i ∧ i.render = line := by
  obtain ⟨_, _ | i | _⟩ := t
  · simp [addField, require, importOf?, ht]
  · simp [addField, require, importOf?, ht, mem_insertSorted, or_comm, eq_comm]
  · simp [addField, require, importOf?, ht]

theorem addFields_cons_ok {w : Interface × Fallbacks} :
    addFields infer owner (f :: fs) u b = .ok w ↔
      ∃ t, fieldType infer owner f = .ok t ∧
        addFields infer owner fs (u.addField f.name t)
          (if t.isFallback then b.record (fieldPath owner.ns owner.name f.name) else b) =
            .ok w := by
  rw [addFields]
  cases fieldType infer owner f <;> simp [bind, Except.bind]

/-- What adding fields to an interface makes of it and of the noted names. -/
structure Adds (infer : Inferrer) (owner : Entity) (fs : List Field) (u : Interface) (b : Fallbacks)
    (v : Interface) (d : Fallbacks) : Prop where
  typed : ∀ f ∈ fs, ∃ t, fieldType infer owner f = .ok t
  name : v.name = u.name
  imports : ∀ line, line ∈ v.imports ↔
    line ∈ u.imports ∨ ∃ i ∈ fs.filterMap (importOf? infer owner), i.render = line
  fallbacks : d.fields = b.fields ++
    (fs.filter (hasAnyType infer owner)).map fun f => fieldPath owner.ns owner.name f.name

theorem adds_of_addFields (h : addFields infer owner fs u b = .ok (v, d)) :
    Adds infer owner fs u b v d := by
  induction fs generalizing u b with
  | nil =>
    obtain ⟨rfl, rfl⟩ : u = v ∧ b = d := by simpa [addFields] using h
    exact ⟨by simp, rfl, by simp, by simp⟩
  | cons f fs ih =>
    obtain ⟨t, ht, hrest⟩ := addFields_cons_ok.mp h
    have ha := ih hrest
    refine ⟨?_, ?_, ?_, ?_⟩
    · intro g hg
      rcases List.mem_cons.mp hg with rfl | hg
      · exact ⟨t, ht⟩
      · exact ha.typed g hg
    · exact ha.name.trans (name_addField u f.name t)
    · intro line
      rw [ha.imports, mem_imports_addField ht, or_assoc]
      cases hi : importOf? infer owner f <;> simp [hi]
    · rw [ha.fallbacks]
      by_cases hf : t.isFallback <;> simp [hasAnyType, ht, hf, Fallbacks.record]

theorem exists_addFields (h : ∀ f ∈ fs, ∃ t, fieldType infer owner f = .ok t) :
    ∃ w, addFields infer owner fs u b = .ok w := by
  induction fs generalizing u b with
  | nil => exact ⟨_, rfl⟩
  | cons f fs ih =>
    obtain ⟨t, ht⟩ := h f List.mem_cons_self
    obtain ⟨w, hw⟩ := ih fun g hg => h g (List.mem_cons_of_mem f hg)
    exact ⟨w, addFields_cons_ok.mpr ⟨t, ht, hw⟩⟩

/-- An entity has an interface exactly if each of its fields has a type. -/
theorem exists_ofEntity_iff : (∃ w, ofEntity infer e = .ok w) ↔
    ∀ f ∈ e.fields, ∃ t, fieldType infer e f = .ok t := by
  constructor
  · rintro ⟨⟨u, b⟩, h⟩
    exact (adds_of_addFields h).typed
  · exact exists_addFields

theorem adds_of_ofEntity (h : ofEntity infer e = .ok (u, b)) :
    Adds infer e e.fields { name := e.exportedName } {} u b :=
  adds_of_addFields h

/-- The import lines of a file are the rendered imports of its entity. -/
theorem mem_imports_iff (h : ofEntity infer e = .ok (u, b)) {line : String} :
    line ∈ u.imports ↔ ∃ i ∈ importsOf infer e, i.render = line := by
  simpa [importsOf] using (adds_of_ofEntity h).imports line

theorem fields_of_ofEntity (h : ofEntity infer e = .ok (u, b)) : b.fields = anyFields infer e := by
  simpa [anyFields] using (adds_of_ofEntity h).fallbacks

end Interface

end SchemaInterfaces.TypeScript
