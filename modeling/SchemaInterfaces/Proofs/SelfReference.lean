import SchemaInterfaces.Proofs.Links

/-! References of an entity to itself: when a relation is taken for one, and the import left out. -/
namespace SchemaInterfaces.Schema.Relation

/-- The namespace that a relation of `owner` leads to. An empty one counts as absent. -/
def spaceFrom (rel : Relation) (owner : Entity) : String :=
  (rel.ns.filter (· ≠ "")).getD owner.ns

/-- The exported name that a relation of `owner` leads to. A blank one counts as absent. -/
def exportedFrom (rel : Relation) (owner : Entity) : String :=
  ((rel.exportedName.map Text.trim).filter (· ≠ "")).getD
    (owner.source.exportedName (Text.trim rel.entity))

end SchemaInterfaces.Schema.Relation

namespace SchemaInterfaces.TypeScript
open Schema

variable {owner : Entity} {f : Field} {rel : Relation} {exported related current name : String}

theorem target?_eq_some (h : Text.trim rel.entity ≠ "") :
    target? owner rel = some ⟨rel.spaceFrom owner, rel.exportedFrom owner⟩ := by
  have hgiven : given? rel.entity = some (Text.trim rel.entity) := by simp [given?, h]
  rw [target?, hgiven, Relation.spaceFrom, Relation.exportedFrom, ← bind_given?]
  rfl

theorem referenceOf_eq_ok (owner : Entity) (hrel : f.relation = some rel)
    (h : Text.trim rel.entity ≠ "") :
    referenceOf owner f = .ok (.resolve (rel.exportedFrom owner) (rel.spaceFrom owner) owner.ns
      owner.exportedName) := by
  rw [referenceOf, hrel, Option.bind_some, target?_eq_some h]

theorem name_resolve : (Reference.resolve exported related current name).name = exported := by
  unfold Reference.resolve
  split <;> rfl

theorem imported_resolve_eq_none_iff :
    (Reference.resolve exported related current name).imported = none ↔ exported = name := by
  unfold Reference.resolve
  split <;> simp_all

theorem fieldType_of_referenceOf {ref : Reference} (infer : Inferrer) (hk : f.kind.isRelation)
    (hc : f.choices = []) (h : referenceOf owner f = .ok ref) :
    fieldType infer owner f = .ok (ref.fieldType (f.kind = .toMany ∨ f.many)) := by
  have hn : f.hasChoices = false := by simp [Field.hasChoices, hc]
  rcases isRelation_iff.mp hk with hk | hk <;>
    simp [fieldType, hn, hk, scalarType?, h, Functor.map, Except.map]

/-- A relation that names its entity imports nothing exactly if it leads to the exported name of
its owner, in whatever namespace. So leaving out the import marks a reference to the owner itself
exactly for the relations that do not lead to a namesake in another namespace. The type of the field
is the exported name, with that import or without one. -/
theorem referenceOf_imports_iff (infer : Inferrer) (owner : Entity) (f : Field) {rel : Relation}
    (hrel : f.relation = some rel) (hgiven : Text.trim rel.entity ≠ "") :
    ∃ ref, referenceOf owner f = .ok ref ∧ ref.name = rel.exportedFrom owner ∧
      (∀ i, ref.imported = some i ↔ rel.exportedFrom owner ≠ owner.exportedName ∧
        i = ⟨rel.exportedFrom owner,
          importPath (rel.exportedFrom owner) (rel.spaceFrom owner) owner.ns⟩) ∧
      (ref.imported = none ↔ rel.exportedFrom owner = owner.exportedName) ∧
      ((ref.imported = none ↔
          rel.spaceFrom owner = owner.ns ∧ rel.exportedFrom owner = owner.exportedName) ↔
        (rel.exportedFrom owner = owner.exportedName → rel.spaceFrom owner = owner.ns)) ∧
      (f.kind.isRelation → f.choices = [] →
        fieldType infer owner f = .ok (ref.fieldType (f.kind = .toMany ∨ f.many))) := by
  have href := referenceOf_eq_ok owner hrel hgiven
  refine ⟨_, href, name_resolve, ?_, imported_resolve_eq_none_iff, ?_, ?_⟩
  · intro i
    exact imported_resolve_iff
  · rw [imported_resolve_eq_none_iff]
    constructor
    · intro h hname
      exact (h.mp hname).1
    · intro h
      exact ⟨fun hname => ⟨h hname, hname⟩, And.right⟩
  · intro hk hc
    exact fieldType_of_referenceOf infer hk hc href

theorem referenceOf_imports_category :
    let owner : Entity := { name := "Category", ns := "shop" }
    let rel : Relation := { entity := " Category ", ns := some "", exportedName := some "  " }
    Text.trim rel.entity ≠ "" ∧ ∃ ref, referenceOf owner (.toOne "parent" rel) = .ok ref ∧
      ref.imported = none ∧ rel.spaceFrom owner = owner.ns ∧
      rel.exportedFrom owner = owner.exportedName := by
  intro owner rel
  have hgiven : Text.trim rel.entity ≠ "" := by decide
  obtain ⟨ref, href, -, -, hnone, -⟩ :=
    referenceOf_imports_iff heuristic owner (.toOne "parent" rel) rfl hgiven
  have hname : rel.exportedFrom owner = owner.exportedName := by decide
  have hspace : rel.spaceFrom owner = owner.ns := by decide
  exact ⟨hgiven, ref, href, hnone.mpr hname, hspace, hname⟩

/-- A relation to a namesake in another namespace is taken for one to its owner. -/
theorem referenceOf_namesake :
    let owner : Entity := { name := "User", ns := "shop" }
    let rel : Relation := { entity := "User", ns := some "accounts" }
    rel.spaceFrom owner = "accounts" ∧ rel.exportedFrom owner = "User" ∧
      referenceOf owner (.toOne "account" rel) = .ok ⟨"User", none⟩ := by
  exact ⟨by decide, by decide, rfl⟩

end SchemaInterfaces.TypeScript
