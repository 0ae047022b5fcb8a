import SchemaInterfaces.Proofs.Supplies
import SchemaInterfaces.Proofs.Trimming

/-! Spellings of one reference: what a relation leaves to the defaults may as well be written out,
and two relations that come to the same then share one name and one import. -/
namespace SchemaInterfaces.Text

variable {s : List Char} {c : Char}

/-- What is left of a text begins with a character that is not blank. -/
theorem exists_head?_trimChars (h : trimChars s ≠ []) :
    ∃ c, (trimChars s).head? = some c ∧ isBlank c = false := by
  obtain ⟨c, rest, hs⟩ := List.exists_cons_of_ne_nil h
  refine ⟨c, by rw [hs]; rfl, ?_⟩
  have hprefix : trimChars s <+: s.dropWhile isBlank := List.rdropWhile_prefix isBlank _
  obtain ⟨more, hmore⟩ := hs ▸ hprefix
  have hhead := List.head?_dropWhile_not isBlank s
  rw [← hmore] at hhead
  simpa using hhead

end SchemaInterfaces.Text

namespace SchemaInterfaces.Schema

/-- A text that is not empty stands for itself, and an empty one for the default. -/
theorem getD_filter_some (s default : String) :
    ((some s).filter (· ≠ "")).getD default = if s = "" then default else s := by
  by_cases h : s = "" <;> simp [Option.filter, h]

/-- Writing out what a choice or its default comes to changes nothing. -/
theorem getD_filter_getD (o : Option String) (default : String) :
    ((some ((o.filter (· ≠ "")).getD default)).filter (· ≠ "")).getD default =
      (o.filter (· ≠ "")).getD default := by
  rw [getD_filter_some]
  cases o with
  | none => simp
  | some s =>
    rw [getD_filter_some]
    by_cases h : s = "" <;> simp [h]

theorem getD_filter_eq_iff {o : Option String} {default : String} :
    (o.filter (· ≠ "")).getD default = default ↔ ∀ s, o = some s → s ≠ "" → s = default := by
  cases o with
  | none => simp
  | some s =>
    rw [getD_filter_some]
    by_cases h : s = "" <;> simp [h]

namespace Source

/-- A conventional name has no blanks around it if the entity's name has none. -/
theorem trim_exportedName (source : Source) (s : String) :
    Text.trim (source.exportedName (Text.trim s)) = source.exportedName (Text.trim s) := by
  cases source with
  | models => exact Text.trim_trim s
  | serializers =>
    rw [exportedName, Text.trim, ← String.toList_inj, String.toList_ofList, String.toList_append,
      Text.trim, String.toList_ofList]
    by_cases hs : Text.trimChars s.toList = []
    · rw [hs]
      decide
    · obtain ⟨c, hhead, hc⟩ := Text.exists_head?_trimChars hs
      refine Text.trimChars_eq_self (d := 'r') hc (by decide) ?_ ?_
      · rw [List.head?_append, hhead, Option.some_or]
      · rw [List.getLast?_append]
        rfl

end Source

namespace Relation

/-- The relation as `owner` takes it, with every default written out. -/
def spelledOut (rel : Relation) (owner : Entity) : Relation where
  entity := Text.trim rel.entity
  ns := some (rel.spaceFrom owner)
  exportedName := some (rel.exportedFrom owner)

variable {rel other : Relation} {owner : Entity} {name : String}

theorem trim_exportedFrom (rel : Relation) (owner : Entity) :
    Text.trim (rel.exportedFrom owner) = rel.exportedFrom owner := by
  rw [exportedFrom]
  cases hgiven : (rel.exportedName.map Text.trim).filter (· ≠ "") with
  | none => exact owner.source.trim_exportedName rel.entity
  | some name =>
    obtain ⟨s, -, rfl⟩ := Option.map_eq_some_iff.mp (Option.eq_some_of_filter_eq_some hgiven)
    exact Text.trim_trim s

theorem spaceFrom_spelledOut (rel : Relation) (owner : Entity) :
    (rel.spelledOut owner).spaceFrom owner = rel.spaceFrom owner :=
  getD_filter_getD rel.ns owner.ns

theorem exportedFrom_spelledOut (rel : Relation) (owner : Entity) :
    (rel.spelledOut owner).exportedFrom owner = rel.exportedFrom owner := by
  have hagain := getD_filter_getD (rel.exportedName.map Text.trim)
    (owner.source.exportedName (Text.trim rel.entity))
  rw [← exportedFrom] at hagain
  rw [exportedFrom, spelledOut, Option.map_some, trim_exportedFrom, Text.trim_trim]
  exact hagain

theorem spelledOut_spelledOut (rel : Relation) (owner : Entity) :
    (rel.spelledOut owner).spelledOut owner = rel.spelledOut owner := by
  rw [spelledOut, spaceFrom_spelledOut, exportedFrom_spelledOut]
  simp only [spelledOut, Text.trim_trim]

theorem spelledOut_inj : rel.spelledOut owner = other.spelledOut owner ↔
    Text.trim rel.entity = Text.trim other.entity ∧ rel.spaceFrom owner = other.spaceFrom owner ∧
      rel.exportedFrom owner = other.exportedFrom owner := by
  simp [spelledOut]

theorem spaceFrom_eq_ns_iff : rel.spaceFrom owner = owner.ns ↔
    rel.ns = none ∨ rel.ns = some "" ∨ rel.ns = some owner.ns := by
  rw [spaceFrom, getD_filter_eq_iff]
  cases rel.ns with
  | none => simp
  | some ns => by_cases h : ns = "" <;> simp [h]

theorem exportedFrom_eq_convention_iff :
    rel.exportedFrom owner = owner.source.exportedName (Text.trim rel.entity) ↔
      ∀ name, rel.exportedName = some name → Text.trim name ≠ "" →
        Text.trim name = owner.source.exportedName (Text.trim rel.entity) := by
  rw [exportedFrom, getD_filter_eq_iff]
  cases rel.exportedName <;> simp

/-- The spellings of a reference that leaves all but the entity to the defaults. -/
theorem spelledOut_eq_default_iff :
    rel.spelledOut owner = Relation.spelledOut { entity := name } owner ↔
      Text.trim rel.entity = Text.trim name ∧
      (rel.ns = none ∨ rel.ns = some "" ∨ rel.ns = some owner.ns) ∧
      ∀ exported, rel.exportedName = some exported → Text.trim exported ≠ "" →
        Text.trim exported = owner.source.exportedName (Text.trim rel.entity) := by
  rw [spelledOut_inj, ← spaceFrom_eq_ns_iff, ← exportedFrom_eq_convention_iff]
  constructor
  · rintro ⟨hentity, hspace, hexported⟩
    exact ⟨hentity, hspace, by rw [hexported, hentity]; rfl⟩
  · rintro ⟨hentity, hspace, hexported⟩
    exact ⟨hentity, hspace, by rw [hexported, hentity]; rfl⟩

end Relation

/-- A field whose relation, if it has one, is written out. -/
def Field.spelledOut (f : Field) (owner : Entity) : Field :=
  { f with relation := f.relation.map (·.spelledOut owner) }

/-- An entity with every relation written out. -/
def Entity.spelledOut (e : Entity) : Entity :=
  { e with fields := e.fields.map (·.spelledOut e) }

end SchemaInterfaces.Schema

namespace SchemaInterfaces.TypeScript
open Schema

variable {infer : Inferrer} {owner : Entity} {f g : Field} {fs : List Field}
  {rel other : Relation} {u : Interface} {b : Fallbacks}

theorem target?_spelledOut (owner : Entity) (rel : Relation) :
    target? owner (rel.spelledOut owner) = target? owner rel := by
  by_cases hblank : Text.trim rel.entity = ""
  · have hagain : Text.trim (rel.spelledOut owner).entity = "" := by
      simp [Relation.spelledOut, hblank, show Text.trim "" = "" from rfl]
    rw [target?_eq_none_iff.mpr hblank, target?_eq_none_iff.mpr hagain]
  · have hagain : Text.trim (rel.spelledOut owner).entity ≠ "" := by
      simpa [Relation.spelledOut, Text.trim_trim] using hblank
    rw [target?_eq_some hblank, target?_eq_some hagain, rel.spaceFrom_spelledOut,
      rel.exportedFrom_spelledOut]

theorem referenceOf_spelledOut (owner : Entity) (f : Field) :
    referenceOf owner (f.spelledOut owner) = referenceOf owner f := by
  have htarget : (f.spelledOut owner).relation.bind (target? owner) =
      f.relation.bind (target? owner) := by
    cases hrel : f.relation with
    | none => simp [Field.spelledOut, hrel]
    | some rel => simp [Field.spelledOut, hrel, target?_spelledOut]
  rw [referenceOf, referenceOf, htarget]
  rfl

theorem fieldType_spelledOut (infer : Inferrer) (owner : Entity) (f : Field) :
    fieldType infer owner.spelledOut (f.spelledOut owner) = fieldType infer owner f := by
  have href : referenceOf owner.spelledOut (f.spelledOut owner) = referenceOf owner f :=
    referenceOf_spelledOut owner f
  rw [fieldType, fieldType, href]
  rfl

namespace Interface

theorem addFields_spelledOut (infer : Inferrer) (owner : Entity) (fs : List Field) (u : Interface)
    (b : Fallbacks) :
    addFields infer owner.spelledOut (fs.map (·.spelledOut owner)) u b =
      addFields infer owner fs u b := by
  induction fs generalizing u b with
  | nil => rfl
  | cons f fs ih =>
    rw [List.map_cons, addFields, addFields, fieldType_spelledOut]
    cases fieldType infer owner f with
    | error cause => rfl
    | ok t => exact ih _ _

theorem ofEntity_spelledOut (infer : Inferrer) (owner : Entity) :
    ofEntity infer owner.spelledOut = ofEntity infer owner :=
  addFields_spelledOut infer owner owner.fields _ _

/-- The import of a relation to another entity has one line. -/
theorem count_imports (h : ofEntity infer owner = .ok (u, b)) (hf : f ∈ owner.fields)
    (hrel : Follows f rel) (hother : rel.exportedFrom owner ≠ owner.exportedName) :
    u.imports.count (importAlong owner rel).render = 1 := by
  have hmem : (importAlong owner rel).render ∈ u.imports :=
    (mem_imports_iff_follows h).mpr ⟨f, hf, rel, hrel, hother, rfl⟩
  have hnodup : u.imports.Nodup := (ordered_ofEntity h).imports.imp ne_of_lt
  exact List.count_eq_one_of_mem hnodup hmem

end Interface

/-- Writing out the defaults of its relations changes neither a reference nor the file of an entity,
and doing so again changes nothing. So relations that come to the same when they are written out
stand for one reference, whose import has one line however many fields ask for it. Among them are
all that leave a default unsaid, leave it empty, or name it. -/
theorem spelledOut_canonical (infer : Inferrer) (owner : Entity) :
    (∀ f, referenceOf owner (f.spelledOut owner) = referenceOf owner f) ∧
    (∀ rel : Relation, (rel.spelledOut owner).spelledOut owner = rel.spelledOut owner) ∧
    Interface.ofEntity infer owner.spelledOut = Interface.ofEntity infer owner ∧
    (∀ (rel : Relation) (name : String),
      rel.spelledOut owner = Relation.spelledOut { entity := name } owner ↔
        Text.trim rel.entity = Text.trim name ∧
        (rel.ns = none ∨ rel.ns = some "" ∨ rel.ns = some owner.ns) ∧
        ∀ exported, rel.exportedName = some exported → Text.trim exported ≠ "" →
          Text.trim exported = owner.source.exportedName (Text.trim rel.entity)) ∧
    ∀ f g rel other, f.relation = some rel → g.relation = some other →
      rel.spelledOut owner = other.spelledOut owner → Text.trim rel.entity ≠ "" →
        (∃ ref, referenceOf owner f = .ok ref ∧ referenceOf owner g = .ok ref ∧
          ref.name = rel.exportedFrom owner) ∧
        importAlong owner rel = importAlong owner other ∧
        ∀ u b, Interface.ofEntity infer owner = .ok (u, b) → f ∈ owner.fields → Follows f rel →
          rel.exportedFrom owner ≠ owner.exportedName →
            u.imports.count (importAlong owner rel).render = 1 := by
  refine ⟨referenceOf_spelledOut owner, fun rel => rel.spelledOut_spelledOut owner,
    Interface.ofEntity_spelledOut infer owner, fun _ _ => Relation.spelledOut_eq_default_iff, ?_⟩
  intro f g rel other hf hg hsame hgiven
  obtain ⟨hentity, hspace, hexported⟩ := Relation.spelledOut_inj.mp hsame
  have hf := referenceOf_eq_ok owner hf hgiven
  have hg := referenceOf_eq_ok owner hg (hentity ▸ hgiven)
  refine ⟨⟨_, hf, ?_, name_resolve⟩, ?_, ?_⟩
  · rw [hg, hspace, hexported]
  · rw [importAlong, importAlong, hspace, hexported]
  · intro u b hu hmem hrel hother
    exact Interface.count_imports hu hmem hrel hother

/-- An order that names its customer in three ways. -/
def purchase : Entity where
  name := "PurchaseSerializer"
  ns := "shop"
  source := .serializers
  fields := [
    .toOne "customer" { entity := "Customer" },
    .toOne "payer" { entity := " Customer ", ns := some "", exportedName := some " " },
    .toMany "others"
      { entity := "Customer", ns := some "shop", exportedName := some "CustomerSerializer\n" }]

theorem purchase_canonical :
    let rel : Relation := { entity := " Customer ", ns := some "", exportedName := some " " }
    let other : Relation :=
      { entity := "Customer", ns := some "shop", exportedName := some "CustomerSerializer\n" }
    rel.spelledOut purchase = other.spelledOut purchase ∧ Text.trim rel.entity ≠ "" ∧
      ∃ u b, Interface.ofEntity heuristic purchase = .ok (u, b) ∧
        u.imports.count (importAlong purchase rel).render = 1 ∧
        importAlong purchase rel = importAlong purchase other := by
  intro rel other
  have hsame : rel.spelledOut purchase = other.spelledOut purchase := by decide
  have hgiven : Text.trim rel.entity ≠ "" := by decide
  obtain ⟨u, b, hu⟩ : ∃ u b, Interface.ofEntity heuristic purchase = .ok (u, b) := ⟨_, _, rfl⟩
  obtain ⟨-, -, -, -, hspellings⟩ := spelledOut_canonical heuristic purchase
  obtain ⟨-, hboth, hcount⟩ := hspellings (.toOne "payer" rel) (.toMany "others" other) rel other
    rfl rfl hsame hgiven
  exact ⟨hsame, hgiven, u, b, hu,
    hcount u b hu (by decide) ⟨rfl, rfl, rfl⟩ (by decide), hboth⟩

end SchemaInterfaces.TypeScript
