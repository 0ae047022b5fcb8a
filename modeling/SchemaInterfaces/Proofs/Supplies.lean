import Mathlib.Data.List.Sort
import SchemaInterfaces.Proofs.Bindings
import SchemaInterfaces.Proofs.ByteOrder
import SchemaInterfaces.Proofs.Fallbacks
import SchemaInterfaces.Proofs.SelfReference

/-! What a file supplies for its fields: imports for relations and enums for choices, no more and no
less, so that the order of the fields decides nothing but the order of their lines. -/
namespace SchemaInterfaces.TypeScript
open Schema Disk.Tree

/-- The import that a relation of an entity asks for. -/
def importAlong (e : Entity) (rel : Relation) : Import :=
  ⟨rel.exportedFrom e, importPath (rel.exportedFrom e) (rel.spaceFrom e) e.ns⟩

/-- A field is a relation, and no choices replace it. -/
structure Follows (f : Field) (rel : Relation) : Prop where
  kind : f.kind.isRelation
  plain : f.choices = []
  relation : f.relation = some rel

/-- The type of a field that follows a relation: the exported name it leads to, or a list of such. -/
def typeAlong (e : Entity) (f : Field) (rel : Relation) : String :=
  rel.exportedFrom e ++ if f.kind = .toMany ∨ f.many then "[]" else ""

/-- The statement of an import, a single line. -/
theorem render_importAlong (e : Entity) (rel : Relation) : (importAlong e rel).render =
    "import \x7b " ++ rel.exportedFrom e ++ " \x7d from \"" ++
      importPath (rel.exportedFrom e) (rel.spaceFrom e) e.ns ++ "\";" := rfl

/-- The declaration of an enum, one line for each member between the first and the last. -/
theorem render_enumFor (e : Entity) (f : Field) : (enumFor e f).render =
    "export enum " ++ enumName e.name f.name ++ " \x7b\n" ++
      String.join ((enumFor e f).members.map EnumDecl.memberLine) ++ "\x7d" := rfl

/-- The blocks and the lines of an interface are what the fields of its entity ask for. The blocks
ascend by their bytes. -/
structure Supplied (infer : Inferrer) (e : Entity) (u : Interface) : Prop where
  importsAscend : u.imports.Pairwise fun s t => bytes s < bytes t
  imports : ∀ line, line ∈ u.imports ↔ ∃ f ∈ e.fields, ∃ rel, Follows f rel ∧
    rel.exportedFrom e ≠ e.exportedName ∧
    "import \x7b " ++ rel.exportedFrom e ++ " \x7d from \"" ++
      importPath (rel.exportedFrom e) (rel.spaceFrom e) e.ns ++ "\";" = line
  enumsAscend : u.enums.Pairwise fun s t => bytes s < bytes t
  enums : ∀ text, text ∈ u.enums ↔ ∃ f ∈ e.fields, f.choices ≠ [] ∧
    "export enum " ++ enumName e.name f.name ++ " \x7b\n" ++
      String.join ((enumFor e f).members.map EnumDecl.memberLine) ++ "\x7d" = text
  lines : u.fields.map some = e.fields.map (lineOf? infer e)
  relations : ∀ f ∈ e.fields, f.kind.isRelation → f.choices = [] → ∃ rel, Follows f rel ∧
    lineOf? infer e f = some (f.name, typeAlong e f rel) ∧
    (rel.exportedFrom e = e.exportedName ∨ (importAlong e rel).render ∈ u.imports)
  choices : ∀ f ∈ e.fields, f.choices ≠ [] →
    lineOf? infer e f = some (f.name, (enumFor e f).name) ∧ (enumFor e f).render ∈ u.enums

variable {infer : Inferrer} {e : Entity} {f : Field} {fs : List Field} {rel : Relation}
  {i : Import} {u v : Interface} {b d : Fallbacks}

theorem hasChoices_iff : f.hasChoices = true ↔ f.choices ≠ [] := by
  simp [Field.hasChoices]

/-- A field with a type that is a relation without choices says which entity it leads to. -/
theorem exists_follows (hf : ¬ f.LeadsNowhere) (hk : f.kind.isRelation) (hc : f.choices = []) :
    ∃ rel, Follows f rel ∧ Text.trim rel.entity ≠ "" := by
  cases hr : f.relation with
  | none => exact (hf ⟨hk, hc, .inl hr⟩).elim
  | some rel => exact ⟨rel, ⟨hk, hc, hr⟩, fun hblank => hf ⟨hk, hc, .inr ⟨rel, hr, hblank⟩⟩⟩

theorem importOf?_iff_follows (hf : ¬ f.LeadsNowhere) : importOf? infer e f = some i ↔
    ∃ rel, Follows f rel ∧ rel.exportedFrom e ≠ e.exportedName ∧ importAlong e rel = i := by
  rw [importOf?_eq_some_iff]
  constructor
  · rintro ⟨hk, hc, t, ht, hother, rfl⟩
    obtain ⟨rel, hrel, hgiven⟩ := exists_follows hf hk hc
    rw [hrel.relation, Option.bind_some, target?_eq_some hgiven] at ht
    obtain rfl := Option.some.inj ht
    exact ⟨rel, hrel, hother, rfl⟩
  · rintro ⟨rel, hrel, hother, rfl⟩
    have hgiven : Text.trim rel.entity ≠ "" := fun hblank =>
      hf ⟨hrel.kind, hrel.plain, .inr ⟨rel, hrel.relation, hblank⟩⟩
    have ht : f.relation.bind (target? e) = some ⟨rel.spaceFrom e, rel.exportedFrom e⟩ := by
      rw [hrel.relation, Option.bind_some, target?_eq_some hgiven]
    exact ⟨hrel.kind, hrel.plain, _, ht, hother, rfl⟩

theorem lineOf?_of_follows (infer : Inferrer) (e : Entity) (h : Follows f rel)
    (hgiven : Text.trim rel.entity ≠ "") :
    lineOf? infer e f = some (f.name, typeAlong e f rel) := by
  rw [lineOf?_of_fieldType
    (fieldType_of_referenceOf infer h.kind h.plain (referenceOf_eq_ok e h.relation hgiven))]
  by_cases hlist : f.kind = .toMany ∨ f.many <;>
    simp [Reference.fieldType, name_resolve, typeAlong, listOf, hlist]

/-- Each field with a type has one line. -/
theorem map_some_lines (h : ∀ f ∈ fs, ∃ t, fieldType infer e f = .ok t) :
    (fs.filterMap (lineOf? infer e)).map some = fs.map (lineOf? infer e) := by
  have hlines : List.Forall₂ (· = ·) ((fs.filterMap (lineOf? infer e)).map some)
      (fs.map (lineOf? infer e)) := by
    rw [List.forall₂_map_left_iff, List.forall₂_map_right_iff]
    refine (forall₂_lines h).flip.imp ?_
    rintro line f ⟨t, ht, rfl⟩
    exact (lineOf?_of_fieldType ht).symm
  rwa [List.forall₂_eq_eq_eq] at hlines

theorem pairwise_bytes {ss : List String} (h : ss.Pairwise (· < ·)) :
    ss.Pairwise fun s t => bytes s < bytes t :=
  h.imp bytes_lt_iff.mpr

theorem eq_of_pairwise_bytes {ss ts : List String} (hs : ss.Pairwise fun s t => bytes s < bytes t)
    (ht : ts.Pairwise fun s t => bytes s < bytes t) (h : ∀ s, s ∈ ss ↔ s ∈ ts) : ss = ts :=
  List.Pairwise.eq_of_mem_iff (hs.imp bytes_lt_iff.mp) (ht.imp bytes_lt_iff.mp) h

namespace Interface

/-- What stands above the interface in its file. -/
def blocks (u : Interface) : String := block "\n" u.imports ++ block "\n\n" u.enums

/-- The interface itself, one line for each field. -/
def body (u : Interface) : String :=
  "export interface " ++ u.name ++ " \x7b\n" ++ String.join (u.fields.map fieldLine) ++ "\x7d\n\n"

theorem render_eq (u : Interface) : u.render = u.blocks ++ u.body := by
  unfold render blocks body
  simp only [String.append_assoc]

theorem mem_imports_iff_follows (h : ofEntity infer e = .ok (u, b)) {line : String} :
    line ∈ u.imports ↔ ∃ f ∈ e.fields, ∃ rel, Follows f rel ∧
      rel.exportedFrom e ≠ e.exportedName ∧ (importAlong e rel).render = line := by
  have hall := exists_ofEntity_iff_target.mp ⟨_, h⟩
  rw [mem_imports_iff h, importsOf]
  simp only [List.mem_filterMap]
  constructor
  · rintro ⟨i, ⟨f, hf, hi⟩, rfl⟩
    obtain ⟨rel, hrel, hother, rfl⟩ := (importOf?_iff_follows (hall f hf)).mp hi
    exact ⟨f, hf, rel, hrel, hother, rfl⟩
  · rintro ⟨f, hf, rel, hrel, hother, rfl⟩
    exact ⟨_, ⟨f, hf, (importOf?_iff_follows (hall f hf)).mpr ⟨rel, hrel, hother, rfl⟩⟩, rfl⟩

theorem mem_enums_iff_choices (h : ofEntity infer e = .ok (u, b)) {text : String} :
    text ∈ u.enums ↔ ∃ f ∈ e.fields, f.choices ≠ [] ∧ (enumFor e f).render = text := by
  rw [mem_enums_iff h, enumsOf]
  simp only [List.mem_filterMap, enumOf?_eq_some_iff, hasChoices_iff]
  constructor
  · rintro ⟨d, ⟨f, hf, hc, rfl⟩, htext⟩
    exact ⟨f, hf, hc, htext⟩
  · rintro ⟨f, hf, hc, htext⟩
    exact ⟨_, ⟨f, hf, hc, rfl⟩, htext⟩

theorem supplied_of_ofEntity (h : ofEntity infer e = .ok (u, b)) : Supplied infer e u where
  importsAscend := pairwise_bytes (ordered_ofEntity h).imports
  imports _ := by
    simp only [← render_importAlong]
    exact mem_imports_iff_follows h
  enumsAscend := pairwise_bytes (ordered_ofEntity h).enums
  enums _ := by
    simp only [← render_enumFor]
    exact mem_enums_iff_choices h
  lines := by
    rw [lines_of_ofEntity h]
    exact map_some_lines (exists_ofEntity_iff.mp ⟨_, h⟩)
  relations := by
    intro f hf hk hc
    obtain ⟨rel, hrel, hgiven⟩ :=
      exists_follows (exists_ofEntity_iff_target.mp ⟨_, h⟩ f hf) hk hc
    refine ⟨rel, hrel, lineOf?_of_follows infer e hrel hgiven, ?_⟩
    by_cases hown : rel.exportedFrom e = e.exportedName
    · exact .inl hown
    · exact .inr ((mem_imports_iff_follows h).mpr ⟨f, hf, rel, hrel, hown, rfl⟩)
  choices := by
    intro f hf hc
    refine ⟨lineOf?_of_fieldType (fieldType_choices infer (hasChoices_iff.mpr hc)), ?_⟩
    exact (mem_enums_iff_choices h).mpr ⟨f, hf, hc, rfl⟩

/-- In another order the same fields ask for the same blocks. -/
theorem ofEntity_of_perm (h : ofEntity infer e = .ok (u, b)) (hperm : fs.Perm e.fields) :
    ∃ v d, ofEntity infer { e with fields := fs } = .ok (v, d) ∧ v.name = u.name ∧
      v.imports = u.imports ∧ v.enums = u.enums := by
  have hall : ∀ f ∈ fs, ¬ f.LeadsNowhere := fun f hf =>
    exists_ofEntity_iff_target.mp ⟨_, h⟩ f (hperm.mem_iff.mp hf)
  obtain ⟨⟨v, d⟩, hv⟩ : ∃ w, ofEntity infer { e with fields := fs } = .ok w :=
    exists_ofEntity_iff_target.mpr hall
  have hu := supplied_of_ofEntity h
  have hs := supplied_of_ofEntity hv
  -- What a field asks for depends on the names of its entity, not on the other fields: hence `rfl`.
  refine ⟨v, d, hv, ?_, ?_, ?_⟩
  · rw [(adds_of_ofEntity hv).name, (adds_of_ofEntity h).name]
    rfl
  · refine eq_of_pairwise_bytes hs.importsAscend hu.importsAscend fun line => ?_
    rw [hs.imports, hu.imports]
    simp only [hperm.mem_iff]
    rfl
  · refine eq_of_pairwise_bytes hs.enumsAscend hu.enumsAscend fun text => ?_
    rw [hs.enums, hu.enums]
    simp only [hperm.mem_iff]
    rfl

/-- The imports of a file are, ascending and each once, those of the relations without choices that
lead to another name than the entity's, its enums those of the fields with choices. Such a relation
has the exported name for its type, as a list if it leads to many, and that name is the entity's own
or one that an import binds; a field with choices has the name of its enum. With its fields in any
other order the entity has an interface with the lines in that order below the same blocks. -/
theorem blocks_of_permuted (h : ofEntity infer e = .ok (u, b)) :
    Supplied infer e u ∧ ∀ fs, fs.Perm e.fields →
      ∃ v d, ofEntity infer { e with fields := fs } = .ok (v, d) ∧ v.name = u.name ∧
        v.imports = u.imports ∧ v.enums = u.enums ∧
        v.fields.map some = fs.map (lineOf? infer e) ∧ v.fields.Perm u.fields ∧
        u.render = u.blocks ++ u.body ∧ v.render = u.blocks ++ v.body := by
  refine ⟨supplied_of_ofEntity h, ?_⟩
  intro fs hperm
  obtain ⟨v, d, hv, hname, himports, henums⟩ := ofEntity_of_perm h hperm
  have hlines : v.fields.Perm u.fields := by
    rw [lines_of_ofEntity hv, lines_of_ofEntity h]
    exact hperm.filterMap (lineOf? infer e)
  have hblocks : v.blocks = u.blocks := by rw [blocks, blocks, himports, henums]
  exact ⟨v, d, hv, hname, himports, henums, (supplied_of_ofEntity hv).lines, hlines, render_eq u,
    hblocks ▸ render_eq v⟩

/-- The parcel with its fields from the last to the first. -/
theorem blocks_of_permuted_parcel : ∃ u b v d, ofEntity heuristic parcel = .ok (u, b) ∧
    Supplied heuristic parcel u ∧ parcel.fields.reverse.Perm parcel.fields ∧
    ofEntity heuristic { parcel with fields := parcel.fields.reverse } = .ok (v, d) ∧
    v.fields.map some = parcel.fields.reverse.map (lineOf? heuristic parcel) ∧
    v.imports = u.imports ∧ v.enums = u.enums ∧ v.render = u.blocks ++ v.body := by
  have hperm : parcel.fields.reverse.Perm parcel.fields := List.reverse_perm _
  have hok : (ofEntity heuristic parcel).toBool := by decide +kernel
  cases hu : ofEntity heuristic parcel with
  | error cause => simp [hu, Except.toBool] at hok
  | ok w =>
    obtain ⟨u, b⟩ := w
    obtain ⟨hsupplied, hall⟩ := blocks_of_permuted hu
    obtain ⟨v, d, hv, -, himports, henums, hlines, -, -, hrender⟩ := hall _ hperm
    exact ⟨u, b, v, d, rfl, hsupplied, hperm, hv, hlines, himports, henums, hrender⟩

end Interface

end SchemaInterfaces.TypeScript
