import SchemaInterfaces.Proofs.Records
import SchemaInterfaces.Schema.Document

/-! What loading a document does to a catalog: all of its entities are registered, or none is. -/
namespace SchemaInterfaces.Schema
open Reading

theorem Entity.withPrimaryKey_eq (e : Entity) : e.withPrimaryKey = { e with fields :=
    (if ∀ f ∈ e.fields, f.name ≠ "id" then [{ name := "id", kind := .integer }] else []) ++
      e.fields } := by
  have hany : e.fields.any (·.name == "id") ↔ ¬ ∀ f ∈ e.fields, f.name ≠ "id" := by simp
  unfold withPrimaryKey
  by_cases hid : ∀ f ∈ e.fields, f.name ≠ "id"
  · rw [if_pos hid, if_neg (mt hany.mp (not_not_intro hid))]
    rfl
  · rw [if_neg hid, if_pos (hany.mpr hid)]
    rfl

namespace Document
variable {d : Document} {e x : Entity} {es : List Entity} {source : Source} {text : String}

/-- `x` is how the document `d` has its entity `e` registered. -/
structure Completes (d : Document) (e x : Entity) : Prop where
  name : x.name = e.name
  ns : x.ns = if e.ns = "" then Text.trim d.ns else e.ns
  source : x.source = d.source
  methods : x.methods = e.methods
  fields : x.fields = (if d.autoId ∧ ∀ f ∈ e.fields, f.name ≠ "id"
    then [{ name := "id", kind := .integer }] else []) ++ e.fields

theorem completes_complete (d : Document) (e : Entity) : d.Completes e (d.complete e) := by
  by_cases hid : d.autoId
  · rw [complete, if_pos hid, Entity.withPrimaryKey_eq]
    exact ⟨rfl, rfl, rfl, rfl, by simp [hid]⟩
  · rw [complete, if_neg hid]
    exact ⟨rfl, rfl, rfl, rfl, by simp [hid]⟩

/-- A document completes each of its entities in one way. -/
theorem completes_iff : d.Completes e x ↔ d.complete e = x := by
  constructor
  · intro h
    have hd := completes_complete d e
    generalize d.complete e = y at hd
    obtain ⟨_, _, _, _, _⟩ := x
    obtain ⟨_, _, _, _, _⟩ := y
    obtain ⟨rfl, rfl, rfl, rfl, rfl⟩ := h
    obtain ⟨rfl, rfl, rfl, rfl, rfl⟩ := hd
    rfl
  · rintro rfl
    exact completes_complete d e

theorem accept_eq_ok_iff : d.accept e = .ok x ↔ Text.trim e.name ≠ "" ∧ d.Completes e x := by
  rw [completes_iff, accept]
  by_cases hname : Text.trim e.name = "" <;> simp [hname]

/-- Going through the entities ends well exactly if all have names, and else with one error,
wherever the first without a name stands. -/
theorem mapM_accept (d : Document) (es : List Entity) : es.mapM d.accept =
    if ∃ e ∈ es, Text.trim e.name = "" then .error (.unnamedEntity (Text.trim d.ns))
    else .ok (es.map d.complete) := by
  induction es with
  | nil => rfl
  | cons e es ih =>
    rw [List.mapM_cons, ih, accept]
    by_cases hname : Text.trim e.name = ""
    · simp [hname, bind, Except.bind]
    · by_cases hrest : ∃ e ∈ es, Text.trim e.name = ""
      · simp [hname, hrest, bind, Except.bind]
      · simp [hname, hrest, bind, Except.bind, pure, Except.pure]

/-- Why a text contributes nothing to a catalog of that source. The first reason that applies
counts: the text, then the namespace, and the names only if the source is the one asked for. -/
inductive Refused (source : Source) (text : String) : DocumentError → Prop where
  | unreadable {p : Problem} (unread : ofText text = .error p) :
    Refused source text (.unreadable p)
  | blankNamespace {d : Document} (read : ofText text = .ok d) (blank : Text.trim d.ns = "") :
    Refused source text .blankNamespace
  | unnamedEntity {d : Document} {e : Entity} (read : ofText text = .ok d)
    (given : Text.trim d.ns ≠ "") (same : d.source = source) (member : e ∈ d.entities)
    (unnamed : Text.trim e.name = "") : Refused source text (.unnamedEntity (Text.trim d.ns))

/-- A text holds a document of that source, and the entities that it has registered. -/
structure Holds (source : Source) (text : String) (d : Document) (es : List Entity) : Prop where
  read : ofText text = .ok d
  given : Text.trim d.ns ≠ ""
  same : d.source = source
  named : ∀ e ∈ d.entities, Text.trim e.name ≠ ""
  completed : List.Forall₂ d.Completes d.entities es

theorem entitiesFor_eq_ok_iff : d.entitiesFor source = .ok es ↔ Text.trim d.ns ≠ "" ∧
    (d.source ≠ source ∧ es = [] ∨ d.source = source ∧
      (∀ e ∈ d.entities, Text.trim e.name ≠ "") ∧ List.Forall₂ d.Completes d.entities es) := by
  unfold entitiesFor
  by_cases hns : Text.trim d.ns = ""
  · simp [hns]
  · by_cases hsame : d.source = source
    · rw [if_neg hns, if_neg (not_not_intro hsame), mapM_eq_ok_iff]
      simp only [accept_eq_ok_iff, List.forall₂_and_left]
      simp [hns, hsame]
    · simp only [hns, hsame, if_false, if_true, not_false_eq_true, ne_eq, true_and, false_and,
        or_false, Except.ok.injEq]
      exact eq_comm

theorem entitiesFor_eq_error_iff {err : DocumentError} : d.entitiesFor source = .error err ↔
    Text.trim d.ns = "" ∧ err = .blankNamespace ∨
      Text.trim d.ns ≠ "" ∧ d.source = source ∧ (∃ e ∈ d.entities, Text.trim e.name = "") ∧
        err = .unnamedEntity (Text.trim d.ns) := by
  unfold entitiesFor
  by_cases hns : Text.trim d.ns = ""
  · simp only [hns, if_true, ne_eq, not_true_eq_false, true_and, false_and, or_false,
      Except.error.injEq]
    exact eq_comm
  · by_cases hsame : d.source = source
    · rw [if_neg hns, if_neg (not_not_intro hsame), mapM_accept]
      by_cases hnames : ∃ e ∈ d.entities, Text.trim e.name = ""
      · simp only [hns, hsame, hnames, if_true, ne_eq, not_false_eq_true, true_and, false_and,
          false_or, Except.error.injEq]
        exact eq_comm
      · simp [hns, hsame, hnames]
    · simp [hns, hsame]

end Document

namespace Catalog
variable {source : Source} {text : String} {c c' : Catalog} {n : Nat} {err : DocumentError}

theorem load_eq_error_iff : c.load source text = (.error err, c') ↔
    Document.Refused source text err ∧ c' = c := by
  unfold load
  constructor
  · intro h
    split at h
    · rename_i p hread
      obtain ⟨he, rfl⟩ := Prod.mk.inj h
      obtain rfl := Except.error.inj he
      exact ⟨.unreadable hread, rfl⟩
    · rename_i d hread
      split at h
      · rename_i e hes
        obtain ⟨he, rfl⟩ := Prod.mk.inj h
        obtain rfl := Except.error.inj he
        refine ⟨?_, rfl⟩
        rcases Document.entitiesFor_eq_error_iff.mp hes with ⟨hblank, rfl⟩ | ⟨hns, hs, hnames, rfl⟩
        · exact .blankNamespace hread hblank
        · obtain ⟨e, he, hname⟩ := hnames
          exact .unnamedEntity hread hns hs he hname
      · cases (Prod.mk.inj h).1
  · rintro ⟨hrefused, rfl⟩
    cases hrefused with
    | unreadable hread => simp [hread]
    | blankNamespace hread hblank =>
      rename_i d
      have hes : d.entitiesFor source = .error .blankNamespace :=
        Document.entitiesFor_eq_error_iff.mpr (.inl ⟨hblank, rfl⟩)
      simp [hread, hes]
    | unnamedEntity hread hns hs he hname =>
      have hes := Document.entitiesFor_eq_error_iff.mpr (.inr ⟨hns, hs, ⟨_, he, hname⟩, rfl⟩)
      simp [hread, hes]

theorem load_eq_ok_iff : c.load source text = (.ok n, c') ↔
    (∃ d, Document.ofText text = .ok d ∧ Text.trim d.ns ≠ "" ∧ d.source ≠ source ∧
      n = 0 ∧ c' = c) ∨
    ∃ d es, Document.Holds source text d es ∧ n = d.entities.length ∧
      c' = es.foldl register c := by
  have hload : c.load source text = (.ok n, c') ↔ ∃ d es, Document.ofText text = .ok d ∧
      d.entitiesFor source = .ok es ∧ n = es.length ∧ c' = es.foldl register c := by
    unfold load
    cases hread : Document.ofText text with
    | error p => simp
    | ok d => cases hes : d.entitiesFor source <;> simp [hes, eq_comm, registerAll]
  rw [hload]
  constructor
  · rintro ⟨d, es, hread, hes, rfl, rfl⟩
    obtain ⟨hns, ⟨hother, rfl⟩ | ⟨hsame, hnamed, hall⟩⟩ := Document.entitiesFor_eq_ok_iff.mp hes
    · exact .inl ⟨d, hread, hns, hother, rfl, rfl⟩
    · exact .inr ⟨d, es, ⟨hread, hns, hsame, hnamed, hall⟩, hall.length_eq.symm, rfl⟩
  · rintro (⟨d, hread, hns, hother, rfl, rfl⟩ | ⟨d, es, hd, rfl, rfl⟩)
    · have hes := Document.entitiesFor_eq_ok_iff.mpr ⟨hns, .inl ⟨hother, rfl⟩⟩
      exact ⟨d, [], hread, hes, rfl, rfl⟩
    · have hes := Document.entitiesFor_eq_ok_iff.mpr
        ⟨hd.given, .inr ⟨hd.same, hd.named, hd.completed⟩⟩
      exact ⟨d, es, hd.read, hes, hd.completed.length_eq, rfl⟩

/-- Loading fails exactly for the reasons given, and then leaves the catalog as it was. A document
of another source counts for nothing, named or not. Else all entities of the document are
registered one after the other, each completed from the document, and counted. -/
theorem load_exact (source : Source) (text : String) (c : Catalog) :
    (∀ err c', c.load source text = (.error err, c') ↔
      Document.Refused source text err ∧ c' = c) ∧
    (∀ n c', c.load source text = (.ok n, c') ↔
      (∃ d, Document.ofText text = .ok d ∧ Text.trim d.ns ≠ "" ∧ d.source ≠ source ∧
        n = 0 ∧ c' = c) ∨
      ∃ d es, Document.Holds source text d es ∧ n = d.entities.length ∧
        c' = es.foldl register c) := by
  constructor
  · intro err c'
    exact load_eq_error_iff
  · intro n c'
    exact load_eq_ok_iff

end Catalog

end SchemaInterfaces.Schema
