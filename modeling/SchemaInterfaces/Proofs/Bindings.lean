import Mathlib.Data.List.Dedup
import SchemaInterfaces.Proofs.Blocks
import SchemaInterfaces.Proofs.Depth
import SchemaInterfaces.Proofs.Enums

/-! Names bound at the top of a file: imports, enums and the interface, and when two of them have
one name. -/
namespace SchemaInterfaces.TypeScript
open Schema

/-- A field of an entity needs an import from a target: it is a relation without choices that leads
to another exported name than the entity's. -/
structure ImportsFrom (e : Entity) (f : Field) (t : Target) : Prop where
  relation : f.kind.isRelation
  plain : f.choices = []
  target : f.relation.bind (target? e) = some t
  other : t.exported ≠ e.exportedName

/-- The import from a target. -/
def importFrom (e : Entity) (t : Target) : Import :=
  ⟨t.exported, importPath t.exported t.ns e.ns⟩

/-- The enum that a field declares if it has choices. -/
def enumFor (e : Entity) (f : Field) : EnumDecl := .ofChoices (enumName e.name f.name) f.choices

/-- Seen from the namespace `current`, two namespaces are one folder in imports. -/
def SameFolder (current first second : String) : Prop :=
  (first = current ↔ second = current) ∧ slashed first = slashed second

/-- A statement at the top of a file: the name that it binds, and its text. -/
structure Statement where
  name : String
  text : String
deriving DecidableEq

def Import.statement (i : Import) : Statement := ⟨i.name, i.render⟩

def EnumDecl.statement (d : EnumDecl) : Statement := ⟨d.name, d.render⟩

/-- The statement of an entity's interface, by the line that opens it. -/
def interfaceStatement (e : Entity) : Statement :=
  ⟨e.exportedName, "export interface " ++ e.exportedName ++ " \x7b"⟩

/-- What the fields of an entity put at the top of its file, in their order, and the interface. -/
def statements (infer : Inferrer) (e : Entity) : List Statement :=
  (importsOf infer e).map Import.statement ++
    ((enumsOf e).map EnumDecl.statement ++ [interfaceStatement e])

/-- The names that the file of an entity binds at its top, one for each distinct statement. -/
def boundNames (infer : Inferrer) (e : Entity) : List String :=
  (statements infer e).dedup.map (·.name)

/-- Statements that bind one name are one statement. -/
def Apart (xs ys : List Statement) : Prop := ∀ x ∈ xs, ∀ y ∈ ys, x.name = y.name → x = y

variable {infer : Inferrer} {e : Entity} {f : Field} {xs ys zs : List Statement} {i j : Import}

theorem Apart.symm (h : Apart xs ys) : Apart ys xs := by
  intro y hy x hx hname
  exact (h x hx y hy hname.symm).symm

theorem apart_append_iff : Apart xs (ys ++ zs) ↔ Apart xs ys ∧ Apart xs zs := by
  constructor
  · intro h
    exact ⟨fun x hx y hy => h x hx y (List.mem_append_left zs hy),
      fun x hx z hz => h x hx z (List.mem_append_right ys hz)⟩
  · rintro ⟨hy, hz⟩ x hx w hw
    rcases List.mem_append.mp hw with hw | hw
    · exact hy x hx w hw
    · exact hz x hx w hw

/-- Two lists of statements in one file: each is apart from itself and from the other. -/
theorem apart_self_append_iff :
    Apart (xs ++ ys) (xs ++ ys) ↔ Apart xs xs ∧ Apart xs ys ∧ Apart ys ys := by
  constructor
  · intro h
    obtain ⟨hx, hy⟩ := apart_append_iff.mp h
    obtain ⟨hxx, hxy⟩ := apart_append_iff.mp hx.symm
    exact ⟨hxx, hxy, (apart_append_iff.mp hy.symm).2⟩
  · rintro ⟨hxx, hxy, hyy⟩
    apply apart_append_iff.mpr
    exact ⟨(apart_append_iff.mpr ⟨hxx, hxy⟩).symm, (apart_append_iff.mpr ⟨hxy.symm, hyy⟩).symm⟩

theorem nodup_boundNames_iff_apart :
    (boundNames infer e).Nodup ↔ Apart (statements infer e) (statements infer e) := by
  rw [boundNames, List.nodup_map_iff_inj_on (List.nodup_dedup _)]
  simp only [List.mem_dedup]
  exact Iff.rfl

theorem importOf?_iff_importsFrom : importOf? infer e f = some i ↔
    ∃ t, ImportsFrom e f t ∧ i = importFrom e t := by
  rw [importOf?_eq_some_iff]
  constructor
  · rintro ⟨hk, hc, t, ht, hne, hi⟩
    exact ⟨t, ⟨hk, hc, ht, hne⟩, hi⟩
  · rintro ⟨t, h, hi⟩
    exact ⟨h.relation, h.plain, t, h.target, h.other, hi⟩

theorem importPath_eq_iff {exported first second current : String} :
    importPath exported first current = importPath exported second current ↔
      SameFolder current first second := by
  have hother : ∀ {ns}, ns ≠ current →
      importPath exported ns current = "../" ++ slashed ns ++ "/" ++ exported ++ ".ts" := by
    intro ns hns
    rw [importPath, if_neg hns, slashed]
  have hapart : ∀ {ns}, ns ≠ current →
      importPath exported current current ≠ importPath exported ns current := by
    intro ns hns h
    have hl := congrArg String.toList h
    rw [hother hns] at hl
    simp [importPath] at hl
  unfold SameFolder
  by_cases hfirst : first = current <;> by_cases hsecond : second = current
  · simp [hfirst, hsecond]
  · subst hfirst
    simpa [hsecond] using hapart hsecond
  · subst hsecond
    simpa [hfirst] using (hapart hfirst).symm
  · rw [hother hfirst, hother hsecond]
    simp [hfirst, hsecond, String.append_left_inj, String.append_right_inj]

theorem statement_import_eq_iff (h : i.name = j.name) :
    i.statement = j.statement ↔ i.path = j.path := by
  simp [Import.statement, Import.render, h, String.append_left_inj, String.append_right_inj]

theorem mem_importStatements {x : Statement} : x ∈ (importsOf infer e).map Import.statement ↔
    ∃ f ∈ e.fields, ∃ t, ImportsFrom e f t ∧ (importFrom e t).statement = x := by
  simp only [importsOf, List.mem_map, List.mem_filterMap, importOf?_iff_importsFrom]
  constructor
  · rintro ⟨i, ⟨f, hf, t, ht, rfl⟩, hx⟩
    exact ⟨f, hf, t, ht, hx⟩
  · rintro ⟨f, hf, t, ht, hx⟩
    exact ⟨_, ⟨f, hf, t, ht, rfl⟩, hx⟩

theorem mem_enumStatements {x : Statement} : x ∈ (enumsOf e).map EnumDecl.statement ↔
    ∃ f ∈ e.fields, f.hasChoices ∧ (enumFor e f).statement = x := by
  simp only [enumsOf, List.mem_map, List.mem_filterMap, enumOf?_eq_some_iff]
  constructor
  · rintro ⟨d, ⟨f, hf, hc, rfl⟩, hx⟩
    exact ⟨f, hf, hc, hx⟩
  · rintro ⟨f, hf, hc, hx⟩
    exact ⟨_, ⟨f, hf, hc, rfl⟩, hx⟩

theorem apart_imports_iff :
    Apart ((importsOf infer e).map Import.statement) ((importsOf infer e).map Import.statement) ↔
      ∀ f ∈ e.fields, ∀ g ∈ e.fields, ∀ s t, ImportsFrom e f s → ImportsFrom e g t →
        s.exported = t.exported → SameFolder e.ns s.ns t.ns := by
  constructor
  · intro h f hf g hg s t hs ht hname
    have heq := h _ (mem_importStatements.mpr ⟨f, hf, s, hs, rfl⟩) _
      (mem_importStatements.mpr ⟨g, hg, t, ht, rfl⟩) hname
    have hpath := (statement_import_eq_iff hname).mp heq
    rw [importFrom, importFrom, hname] at hpath
    exact importPath_eq_iff.mp hpath
  · intro h x hx y hy hname
    obtain ⟨f, hf, s, hs, rfl⟩ := mem_importStatements.mp hx
    obtain ⟨g, hg, t, ht, rfl⟩ := mem_importStatements.mp hy
    have hexported : s.exported = t.exported := hname
    apply (statement_import_eq_iff hexported).mpr
    rw [importFrom, importFrom, hexported]
    exact importPath_eq_iff.mpr (h f hf g hg s t hs ht hexported)

theorem enumName_inj {entity first second : String} :
    enumName entity first = enumName entity second ↔
      Text.capitalize first.toList = Text.capitalize second.toList := by
  rw [enumName, enumName, String.append_left_inj, String.append_right_inj, String.ofList_inj]

theorem apart_enums_iff :
    Apart ((enumsOf e).map EnumDecl.statement) ((enumsOf e).map EnumDecl.statement) ↔
      ∀ f ∈ e.fields, ∀ g ∈ e.fields, f.hasChoices → g.hasChoices →
        Text.capitalize f.name.toList = Text.capitalize g.name.toList →
          membersFrom [] f.choices = membersFrom [] g.choices := by
  constructor
  · intro h f hf g hg hc hd hname
    have henum : enumName e.name f.name = enumName e.name g.name := enumName_inj.mpr hname
    have heq := h _ (mem_enumStatements.mpr ⟨f, hf, hc, rfl⟩) _
      (mem_enumStatements.mpr ⟨g, hg, hd, rfl⟩) henum
    have htext := congrArg Statement.text heq
    simp only [EnumDecl.statement, enumFor, henum] at htext
    exact render_ofChoices_eq_iff.mp htext
  · intro h x hx y hy hname
    obtain ⟨f, hf, hc, rfl⟩ := mem_enumStatements.mp hx
    obtain ⟨g, hg, hd, rfl⟩ := mem_enumStatements.mp hy
    have henum : enumName e.name f.name = enumName e.name g.name := hname
    have hmembers := h f hf g hg hc hd (enumName_inj.mp henum)
    rw [enumFor, enumFor, henum, EnumDecl.ofChoices, EnumDecl.ofChoices, hmembers]

/-- An import and an enum are never one statement. -/
theorem statement_import_ne_enum (i : Import) (d : EnumDecl) : i.statement ≠ d.statement := by
  intro h
  have hi : i.render.toList.head? = some 'i' := by
    unfold Import.render
    simp only [String.toList_append]
    rfl
  have hd : d.render.toList.head? = some 'e' := by
    unfold EnumDecl.render
    simp only [String.toList_append]
    rfl
  have htext : i.render = d.render := congrArg Statement.text h
  rw [htext, hd] at hi
  simp at hi

theorem apart_imports_enums_iff :
    Apart ((importsOf infer e).map Import.statement) ((enumsOf e).map EnumDecl.statement) ↔
      ∀ f ∈ e.fields, ∀ g ∈ e.fields, ∀ t, ImportsFrom e f t → g.hasChoices →
        t.exported ≠ enumName e.name g.name := by
  constructor
  · intro h f hf g hg t ht hc hname
    have heq := h _ (mem_importStatements.mpr ⟨f, hf, t, ht, rfl⟩) _
      (mem_enumStatements.mpr ⟨g, hg, hc, rfl⟩) hname
    exact statement_import_ne_enum _ _ heq
  · intro h x hx y hy hname
    obtain ⟨f, hf, t, ht, rfl⟩ := mem_importStatements.mp hx
    obtain ⟨g, hg, hc, rfl⟩ := mem_enumStatements.mp hy
    exact (h f hf g hg t ht hc hname).elim

theorem enumName_ne (entity field : String) : enumName entity field ≠ entity := by
  intro h
  have hl := congrArg String.length h
  rw [enumName, String.length_append, String.length_append, show "Enum".length = 4 from rfl] at hl
  omega

/-- Nothing that the fields need has the name of the interface. -/
theorem apart_interface (infer : Inferrer) (e : Entity) :
    Apart ((importsOf infer e).map Import.statement) [interfaceStatement e] ∧
      Apart ((enumsOf e).map EnumDecl.statement) [interfaceStatement e] := by
  constructor
  · intro x hx y hy hname
    obtain ⟨f, _, t, ht, rfl⟩ := mem_importStatements.mp hx
    obtain rfl := List.mem_singleton.mp hy
    exact (ht.other hname).elim
  · intro x hx y hy hname
    obtain ⟨f, _, _, rfl⟩ := mem_enumStatements.mp hx
    obtain rfl := List.mem_singleton.mp hy
    exact (enumName_ne e.name f.name hname).elim

/-- The imports and the enums of a file ascend, each once, and are those that its fields need. Its
names are distinct exactly if relations that lead to one exported name lead into one folder, choice
fields whose names capitalise to one have the same members, and no relation leads to the name of an
enum. The name of the interface never recurs. -/
theorem nodup_boundNames_iff {u : Interface} {b : Fallbacks}
    (h : Interface.ofEntity infer e = .ok (u, b)) :
    (u.Ordered ∧ (∀ line, line ∈ u.imports ↔ ∃ i ∈ importsOf infer e, i.render = line) ∧
      (∀ line, line ∈ u.enums ↔ ∃ d ∈ enumsOf e, d.render = line) ∧ u.name = e.exportedName) ∧
    ((boundNames infer e).Nodup ↔
      (∀ f ∈ e.fields, ∀ g ∈ e.fields, ∀ s t, ImportsFrom e f s → ImportsFrom e g t →
        s.exported = t.exported → SameFolder e.ns s.ns t.ns) ∧
      (∀ f ∈ e.fields, ∀ g ∈ e.fields, f.hasChoices → g.hasChoices →
        Text.capitalize f.name.toList = Text.capitalize g.name.toList →
          membersFrom [] f.choices = membersFrom [] g.choices) ∧
      ∀ f ∈ e.fields, ∀ g ∈ e.fields, ∀ t, ImportsFrom e f t → g.hasChoices →
        t.exported ≠ enumName e.name g.name) := by
  refine ⟨⟨Interface.ordered_ofEntity h, fun _ => Interface.mem_imports_iff h,
    fun _ => Interface.mem_enums_iff h, (Interface.adds_of_ofEntity h).name⟩, ?_⟩
  obtain ⟨himports, henums⟩ := apart_interface infer e
  have hself : Apart [interfaceStatement e] [interfaceStatement e] := by
    intro x hx y hy _
    rw [List.mem_singleton.mp hx, List.mem_singleton.mp hy]
  rw [nodup_boundNames_iff_apart, statements, apart_self_append_iff, apart_self_append_iff,
    apart_append_iff, apart_imports_iff, apart_enums_iff, apart_imports_enums_iff]
  constructor
  · rintro ⟨hi, ⟨hie, -⟩, he, -, -⟩
    exact ⟨hi, he, hie⟩
  · rintro ⟨hi, he, hie⟩
    exact ⟨hi, ⟨hie, himports⟩, he, henums, hself⟩

def itsSender : Field := .toOne "sender" { entity := "User", ns := some "accounts" }

/-- A parcel has a sender and, under two spellings, a size of the same choices. -/
def parcel : Entity where
  name := "Parcel"
  ns := "shop"
  fields := [itsSender, { name := "size", kind := .choice, choices := [⟨"s", "Small"⟩] },
    { name := "Size", kind := .choice, choices := [⟨"s", "Small"⟩] }]

theorem nodup_boundNames_parcel :
    ∃ u b, Interface.ofEntity heuristic parcel = .ok (u, b) ∧ u.Ordered ∧
      (boundNames heuristic parcel).Nodup ∧
      ∀ f ∈ parcel.fields, ∀ g ∈ parcel.fields, ∀ t, ImportsFrom parcel f t → g.hasChoices →
        t.exported ≠ enumName parcel.name g.name := by
  have hnodup : (boundNames heuristic parcel).Nodup := by decide +kernel
  have hok : (Interface.ofEntity heuristic parcel).toBool := by decide +kernel
  cases h : Interface.ofEntity heuristic parcel with
  | error cause => simp [h, Except.toBool] at hok
  | ok w =>
    obtain ⟨u, b⟩ := w
    obtain ⟨⟨hordered, -⟩, hiff⟩ := nodup_boundNames_iff h
    exact ⟨u, b, rfl, hordered, hnodup, (hiff.mp hnodup).2.2⟩

/-- Distinct fields whose statements bind one name: relations to namesakes in two namespaces, choice
fields that differ in case alone, and a relation to what has the name of an enum. -/
theorem boundNames_clash :
    let users : Entity := { name := "Order", ns := "shop", fields :=
      [.toOne "owner" { entity := "User", ns := some "accounts" },
        .toOne "clerk" { entity := "User", ns := some "staff" }] }
    let dates : Entity := { name := "Order", ns := "shop", fields :=
      [{ name := "dueDate", kind := .choice, choices := [⟨"a", "A"⟩] },
        { name := "duedate", kind := .choice, choices := [⟨"b", "B"⟩] }] }
    let states : Entity := { name := "Order", ns := "shop", fields :=
      [{ name := "state", kind := .choice, choices := [⟨"a", "A"⟩] },
        .toOne "last" { entity := "OrderStateEnum" }] }
    (∀ e ∈ [users, dates, states], (e.fields.map (·.name)).Nodup ∧
      (Interface.ofEntity heuristic e).toBool) ∧
    boundNames heuristic users = ["User", "User", "Order"] ∧
    boundNames heuristic dates = ["OrderDuedateEnum", "OrderDuedateEnum", "Order"] ∧
    boundNames heuristic states = ["OrderStateEnum", "OrderStateEnum", "Order"] := by
  decide +kernel

end SchemaInterfaces.TypeScript
