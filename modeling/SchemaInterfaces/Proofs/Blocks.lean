import Mathlib.Data.String.Basic
import SchemaInterfaces.Proofs.Synthesis

/-! The blocks at the top of a file: imports and enums ascend, each comes once, and the enums are
those of the fields with choices. -/
namespace SchemaInterfaces.TypeScript
open Schema

theorem pairwise_insertSorted {ss : List String} (s : String) (h : ss.Pairwise (· < ·)) :
    (insertSorted s ss).Pairwise (· < ·) := by
  induction ss with
  | nil => simp [insertSorted]
  | cons t rest ih =>
    obtain ⟨hfirst, hrest⟩ := List.pairwise_cons.mp h
    unfold insertSorted
    split
    · rename_i hlt
      refine List.pairwise_cons.mpr ⟨?_, h⟩
      intro r hr
      rcases List.mem_cons.mp hr with rfl | hr
      · exact hlt
      · exact hlt.trans (hfirst r hr)
    · split
      · exact h
      · rename_i hlt hne
        refine List.pairwise_cons.mpr ⟨?_, ih hrest⟩
        intro r hr
        rcases mem_insertSorted.mp hr with rfl | hr
        · exact lt_of_le_of_ne (not_lt.mp hlt) (Ne.symm hne)
        · exact hfirst r hr

/-- The enum that a field with choices declares. -/
def enumOf? (owner : Entity) (f : Field) : Option EnumDecl :=
  if f.hasChoices then some (.ofChoices (enumName owner.name f.name) f.choices) else none

/-- The enums of an entity, in the order of the fields that declare them. -/
def enumsOf (e : Entity) : List EnumDecl := e.fields.filterMap (enumOf? e)

variable {infer : Inferrer} {owner e : Entity} {f : Field} {d : EnumDecl}

theorem enumOf?_eq_some_iff : enumOf? owner f = some d ↔
    f.hasChoices ∧ EnumDecl.ofChoices (enumName owner.name f.name) f.choices = d := by
  unfold enumOf?
  split <;> simp_all

theorem fieldType_choices (infer : Inferrer) (h : f.hasChoices) :
    fieldType infer owner f = .ok ⟨enumName owner.name f.name,
      some (.declared (.ofChoices (enumName owner.name f.name) f.choices))⟩ := by
  simp [fieldType, h, EnumDecl.ofChoices]

/-- The type of a reference declares nothing. -/
theorem not_declared_of_reference {r : Except MissingTarget Reference} {many : Bool}
    {t : FieldType} (ht : (·.fieldType many) <$> r = .ok t) (d : EnumDecl) :
    t.requires ≠ some (.declared d) := by
  cases r with
  | error cause => simp [Functor.map, Except.map] at ht
  | ok r =>
    obtain rfl : r.fieldType many = t := by simpa [Functor.map, Except.map] using ht
    cases hi : r.imported <;> simp [Reference.fieldType, hi]

theorem not_declared_of_fieldType {t : FieldType} (hc : f.hasChoices = false)
    (ht : fieldType infer owner f = .ok t) (d : EnumDecl) : t.requires ≠ some (.declared d) := by
  rw [fieldType, hc, if_neg (by simp)] at ht
  split at ht
  · cases ht
    simp
  · split at ht
    · exact not_declared_of_reference ht d
    · exact not_declared_of_reference ht d
    · cases ht
      simp
    · cases ht
      simp

theorem enumOf?_of_fieldType {t : FieldType} (ht : fieldType infer owner f = .ok t) :
    enumOf? owner f = some d ↔ t.requires = some (.declared d) := by
  cases hc : f.hasChoices with
  | true =>
    rw [fieldType_choices infer hc] at ht
    cases ht
    simp [enumOf?, hc]
  | false =>
    have hnone : enumOf? owner f = none := by simp [enumOf?, hc]
    simp [hnone, not_declared_of_fieldType hc ht d]

namespace Interface
variable {fs : List Field} {t : FieldType} {u v : Interface} {a b : Fallbacks}

/-- Both blocks ascend, so no line of them comes twice. -/
structure Ordered (u : Interface) : Prop where
  imports : u.imports.Pairwise (· < ·)
  enums : u.enums.Pairwise (· < ·)

theorem ordered_addField (h : u.Ordered) (name : String) (t : FieldType) :
    (u.addField name t).Ordered := by
  obtain ⟨_, _ | i | d⟩ := t
  · exact ⟨h.imports, h.enums⟩
  · exact ⟨pairwise_insertSorted i.render h.imports, h.enums⟩
  · exact ⟨h.imports, pairwise_insertSorted d.render h.enums⟩

theorem ordered_addFields (h : u.Ordered) (hv : addFields infer owner fs u a = .ok (v, b)) :
    v.Ordered := by
  induction fs generalizing u a with
  | nil =>
    obtain ⟨rfl, rfl⟩ : u = v ∧ a = b := by simpa [addFields] using hv
    exact h
  | cons f fs ih =>
    obtain ⟨t, _, hrest⟩ := addFields_cons_ok.mp hv
    exact ih (ordered_addField h f.name t) hrest

theorem mem_enums_addField (ht : fieldType infer owner f = .ok t) {line : String} :
    line ∈ (u.addField f.name t).enums ↔
      line ∈ u.enums ∨ ∃ d, enumOf? owner f = some d ∧ d.render = line := by
  simp only [enumOf?_of_fieldType ht]
  obtain ⟨_, _ | i | d⟩ := t
  · simp [addField, require]
  · simp [addField, require]
  · simp [addField, require, mem_insertSorted, or_comm, eq_comm]

theorem mem_enums_addFields (h : addFields infer owner fs u a = .ok (v, b)) {line : String} :
    line ∈ v.enums ↔ line ∈ u.enums ∨ ∃ d ∈ fs.filterMap (enumOf? owner), d.render = line := by
  induction fs generalizing u a with
  | nil =>
    obtain ⟨rfl, rfl⟩ : u = v ∧ a = b := by simpa [addFields] using h
    simp
  | cons f fs ih =>
    obtain ⟨t, ht, hrest⟩ := addFields_cons_ok.mp h
    rw [ih hrest, mem_enums_addField ht, or_assoc]
    cases hd : enumOf? owner f <;> simp [hd]

/-- The enum blocks of a file are the rendered enums of its entity. -/
theorem mem_enums_iff (h : ofEntity infer e = .ok (u, b)) {line : String} :
    line ∈ u.enums ↔ ∃ d ∈ enumsOf e, d.render = line := by
  have hmem : line ∈ u.enums ↔ _ := mem_enums_addFields h
  simpa [enumsOf] using hmem

theorem ordered_ofEntity (h : ofEntity infer e = .ok (u, b)) : u.Ordered :=
  ordered_addFields ⟨.nil, .nil⟩ h

end Interface

end SchemaInterfaces.TypeScript
