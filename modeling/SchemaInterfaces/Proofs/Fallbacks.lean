import Mathlib.Data.List.Forall2
import SchemaInterfaces.Proofs.Synthesis

/-! How the interface of an entity comes about in a run: the first relation without a target ends
it and leaves no note, else each field has one line and those of type `any` are noted. -/
namespace SchemaInterfaces.Schema

/-- A relation, not replaced by choices, that does not say which entity it leads to. -/
def Field.LeadsNowhere (f : Field) : Prop :=
  f.kind.isRelation ∧ f.choices = [] ∧
    (f.relation = none ∨ ∃ rel, f.relation = some rel ∧ Text.trim rel.entity = "")

end SchemaInterfaces.Schema

namespace SchemaInterfaces.TypeScript
open Schema

/-- The line of a field in the interface: its name and its type. -/
def lineOf? (infer : Inferrer) (owner : Entity) (f : Field) : Option (String × String) :=
  (fieldType infer owner f).toOption.map fun t => (f.name, t.expr)

/-- The full names of the fields among these lines whose type is `any`. -/
def anyLines (owner : Entity) (lines : List (String × String)) : List String :=
  (lines.filter (·.2 = "any")).map fun line => fieldPath owner.ns owner.name line.1

variable {infer : Inferrer} {owner e : Entity} {f : Field} {fs gs before after : List Field}
  {t : FieldType} {cause : MissingTarget} {lines : List (String × String)}

theorem target?_eq_none_iff {rel : Relation} :
    target? owner rel = none ↔ Text.trim rel.entity = "" := by
  by_cases h : Text.trim rel.entity = "" <;> simp [target?, given?, h]

theorem referenceOf_eq_error_iff : referenceOf owner f = .error cause ↔
    f.relation.bind (target? owner) = none ∧ cause = ⟨owner.qualifiedName, f.name⟩ := by
  rw [referenceOf]
  cases f.relation.bind (target? owner) <;> simp [eq_comm]

/-- A field has no type exactly if it leads nowhere, and the cause names it. -/
theorem fieldType_eq_error_iff : fieldType infer owner f = .error cause ↔
    f.LeadsNowhere ∧ cause = ⟨owner.qualifiedName, f.name⟩ := by
  by_cases hrel : f.kind.isRelation ∧ f.choices = []
  · have hn : f.hasChoices = false := by simp [Field.hasChoices, hrel.2]
    have hnowhere : f.LeadsNowhere ↔ f.relation.bind (target? owner) = none := by
      cases hr : f.relation <;> simp [Field.LeadsNowhere, hrel, hr, target?_eq_none_iff]
    have hmap : ∀ many, ((·.fieldType many) <$> referenceOf owner f : Except _ FieldType) =
        .error cause ↔ referenceOf owner f = .error cause := by
      intro many
      cases referenceOf owner f <;> simp [Functor.map, Except.map]
    rw [hnowhere, ← referenceOf_eq_error_iff]
    rcases isRelation_iff.mp hrel.1 with hk | hk
    · simpa [fieldType, hn, hk, scalarType?] using hmap f.many
    · simpa [fieldType, hn, hk, scalarType?] using hmap true
  · obtain ⟨t, ht⟩ : ∃ t, fieldType infer owner f = .ok t := fieldType_of_not_relation infer hrel
    have hsome : ¬ f.LeadsNowhere := fun h => hrel ⟨h.1, h.2.1⟩
    simp [ht, hsome]

theorem exists_fieldType_iff : (∃ t, fieldType infer owner f = .ok t) ↔ ¬ f.LeadsNowhere := by
  cases h : fieldType infer owner f with
  | error cause => simp [(fieldType_eq_error_iff.mp h).1]
  | ok t =>
    have hsome : ¬ f.LeadsNowhere := by
      intro hnowhere
      rw [fieldType_eq_error_iff.mpr ⟨hnowhere, rfl⟩] at h
      contradiction
    simp [hsome]

theorem lineOf?_of_fieldType (ht : fieldType infer owner f = .ok t) :
    lineOf? infer owner f = some (f.name, t.expr) := by
  simp [lineOf?, ht, Except.toOption]

/-- Fields that all have a type have one line each. -/
theorem forall₂_lines (h : ∀ f ∈ fs, ∃ t, fieldType infer owner f = .ok t) :
    List.Forall₂ (fun f line => ∃ t, fieldType infer owner f = .ok t ∧ line = (f.name, t.expr))
      fs (fs.filterMap (lineOf? infer owner)) := by
  induction fs with
  | nil => exact .nil
  | cons f fs ih =>
    obtain ⟨t, ht⟩ := h f List.mem_cons_self
    rw [List.filterMap_cons_some (lineOf?_of_fieldType ht)]
    exact .cons ⟨t, ht, rfl⟩ (ih fun g hg => h g (List.mem_cons_of_mem f hg))

/-- The fields whose type is not known are those with the line `any`. -/
theorem anyLines_filterMap (infer : Inferrer) (owner : Entity) (fs : List Field) :
    anyLines owner (fs.filterMap (lineOf? infer owner)) =
      (fs.filter (hasAnyType infer owner)).map fun f => fieldPath owner.ns owner.name f.name := by
  induction fs with
  | nil => rfl
  | cons f fs ih =>
    rw [anyLines] at ih ⊢
    cases ht : fieldType infer owner f with
    | error cause =>
      have hline : lineOf? infer owner f = none := by simp [lineOf?, ht, Except.toOption]
      simp [hline, hasAnyType, ht, ih]
    | ok t =>
      rw [List.filterMap_cons_some (lineOf?_of_fieldType ht)]
      by_cases hany : t.expr = "any" <;>
        simp [hany, hasAnyType, ht, FieldType.isFallback, anyType, ih]

namespace Interface
variable {u v : Interface} {b d : Fallbacks}

theorem fields_addField (u : Interface) (name : String) (t : FieldType) :
    (u.addField name t).fields = u.fields ++ [(name, t.expr)] := by
  obtain ⟨_, _ | _ | _⟩ := t <;> rfl

theorem addFields_append (infer : Inferrer) (owner : Entity) (fs gs : List Field) (u : Interface)
    (b : Fallbacks) : addFields infer owner (fs ++ gs) u b =
      (addFields infer owner fs u b >>= fun w => addFields infer owner gs w.1 w.2) := by
  induction fs generalizing u b with
  | nil => rfl
  | cons f fs ih =>
    rw [List.cons_append, addFields, addFields]
    cases fieldType infer owner f with
    | error cause => rfl
    | ok t => exact ih ..

/-- The first field that leads nowhere is the one that is named, whatever came before it. -/
theorem addFields_eq_error (hbefore : ∀ g ∈ before, ¬ g.LeadsNowhere) (hf : f.LeadsNowhere) :
    addFields infer owner (before ++ f :: after) u b =
      .error ⟨owner.qualifiedName, f.name⟩ := by
  obtain ⟨w, hw⟩ : ∃ w, addFields infer owner before u b = .ok w :=
    exists_addFields fun g hg => exists_fieldType_iff.mpr (hbefore g hg)
  have herror : fieldType infer owner f = .error ⟨owner.qualifiedName, f.name⟩ :=
    fieldType_eq_error_iff.mpr ⟨hf, rfl⟩
  rw [addFields_append, hw]
  simp [bind, Except.bind, addFields, herror]

theorem fields_addFields (h : addFields infer owner fs u b = .ok (v, d)) :
    v.fields = u.fields ++ fs.filterMap (lineOf? infer owner) := by
  induction fs generalizing u b with
  | nil =>
    obtain ⟨rfl, rfl⟩ : u = v ∧ b = d := by simpa [addFields] using h
    simp
  | cons f fs ih =>
    obtain ⟨t, ht, hrest⟩ := addFields_cons_ok.mp h
    rw [ih hrest, fields_addField, List.filterMap_cons_some (lineOf?_of_fieldType ht)]
    simp

theorem lines_of_ofEntity (h : ofEntity infer e = .ok (u, b)) :
    u.fields = e.fields.filterMap (lineOf? infer e) := by
  simpa using fields_addFields h

theorem exists_ofEntity_iff_target : (∃ w, ofEntity infer e = .ok w) ↔
    ∀ f ∈ e.fields, ¬ f.LeadsNowhere := by
  simp only [exists_ofEntity_iff, exists_fieldType_iff]

/-- An entity has no interface exactly if one of its relations leads nowhere. The cause then names
the first of them, and the notes stay as they were. Otherwise the interface has the exported name of
the entity and, in their order, the name and the type of each field; noted behind the earlier notes
are, in that order, the full names of exactly those fields whose type reads `any`. -/
theorem ofEntityAfter_outcome (infer : Inferrer) (e : Entity) (noted : Fallbacks) :
    ((∃ cause, (ofEntityAfter infer e noted).1 = .error cause) ↔
      ∃ f ∈ e.fields, f.LeadsNowhere) ∧
    (∀ before f after, e.fields = before ++ f :: after → (∀ g ∈ before, ¬ g.LeadsNowhere) →
      f.LeadsNowhere →
        ofEntityAfter infer e noted = (.error ⟨e.qualifiedName, f.name⟩, noted)) ∧
    ((∀ f ∈ e.fields, ¬ f.LeadsNowhere) → ∃ u,
      ofEntityAfter infer e noted = (.ok u, ⟨noted.fields ++ anyLines e u.fields⟩) ∧
      u.name = e.exportedName ∧
      List.Forall₂ (fun f line => ∃ t, fieldType infer e f = .ok t ∧ line = (f.name, t.expr))
        e.fields u.fields) := by
  refine ⟨?_, ?_, ?_⟩
  · have hok : (∃ w, ofEntity infer e = .ok w) ↔ ¬ ∃ f ∈ e.fields, f.LeadsNowhere := by
      simpa using exists_ofEntity_iff_target
    rw [← not_iff_not, ← hok, ofEntityAfter]
    cases ofEntity infer e <;> simp
  · intro before f after hfields hbefore hf
    rw [ofEntityAfter, ofEntity, hfields, addFields_eq_error hbefore hf]
  · intro hall
    obtain ⟨⟨u, b⟩, hu⟩ : ∃ w, ofEntity infer e = .ok w := exists_ofEntity_iff_target.mpr hall
    have hlines := lines_of_ofEntity hu
    refine ⟨u, ?_, (adds_of_ofEntity hu).name, ?_⟩
    · rw [hlines, anyLines_filterMap]
      simp [ofEntityAfter, hu, Fallbacks.append, fields_of_ofEntity hu, anyFields]
    · rw [hlines]
      exact forall₂_lines (exists_ofEntity_iff.mp ⟨_, hu⟩)

/-- A relation to an entity of the name `any` is noted too. -/
example :
    let owner : Field := { name := "owner", kind := .toOne, relation := some { entity := "any" } }
    let order : Entity := { name := "Order", ns := "shop", fields := [owner] }
    (ofEntityAfter (fun _ => none) order ⟨["shop.Cart.total"]⟩).2 =
      ⟨["shop.Cart.total", "shop.Order.owner"]⟩ := by
  decide +kernel

end Interface

end SchemaInterfaces.TypeScript
