import Mathlib.Data.List.Sort
import SchemaInterfaces.Proofs.Loading
import SchemaInterfaces.Proofs.Paths
import SchemaInterfaces.Proofs.Walk
import SchemaInterfaces.Schema.Folder

/-! Schema folders as lists of documents: the catalog of a folder depends on the documents in it
that can be taken in and on their names, and on nothing else that lies there. -/
namespace SchemaInterfaces.Schema
open Disk

/-- A document in the folder `p`, which is at `loc`: a text below it with the right extension, whose
path is short enough to be opened. -/
structure DocumentAt (t : Tree) (p : Path) (loc l : Location) (text : String) : Prop where
  reached : t.Reaches loc l (.text text)
  json : l.getLast?.bind extension? = some "json"
  short : (p.inside l).isTooLong = false

/-- A text that holds a document of that source in which every entity has a name. -/
def Accepted (source : Source) (text : String) : Prop := ∃ d es, Document.Holds source text d es

variable {t t' : Tree} {p p' : Path} {loc loc' l m : Location} {source : Source} {text : String}
  {c : Catalog} {docs docs' : List (Location × String)} {content : Content}

theorem document?_eq_some_iff : document? p (m, content) = some (l, text) ↔
    m = l ∧ content = .text text ∧ l.getLast?.bind extension? = some "json" ∧
      (p.inside l).isTooLong = false := by
  cases content with
  | binary bytes => simp [document?]
  | text s =>
    simp only [document?, Option.ite_none_right_eq_some, Option.some.injEq, Prod.mk.injEq,
      Content.text.injEq]
    constructor
    · rintro ⟨⟨hjson, hshort⟩, rfl, rfl⟩
      exact ⟨rfl, rfl, hjson, hshort⟩
    · rintro ⟨rfl, rfl, hjson, hshort⟩
      exact ⟨⟨hjson, hshort⟩, rfl, rfl⟩

theorem mem_documentsBelow_iff :
    (l, text) ∈ documentsBelow t p loc ↔ DocumentAt t p loc l text := by
  rw [documentsBelow, List.mem_filterMap]
  constructor
  · rintro ⟨⟨m, content⟩, hfile, hdoc⟩
    obtain ⟨rfl, rfl, hjson, hshort⟩ := document?_eq_some_iff.mp hdoc
    exact ⟨Tree.mem_filesBelow_iff.mp hfile, hjson, hshort⟩
  · intro h
    exact ⟨_, Tree.mem_filesBelow_iff.mpr h.reached,
      document?_eq_some_iff.mpr ⟨rfl, rfl, h.json, h.short⟩⟩

/-- Documents in the order of their names. -/
def Ordered (docs : List (Location × String)) : Prop :=
  docs.Pairwise fun a b => Tree.Before a.1 b.1

theorem ordered_documentsBelow (t : Tree) (p : Path) (loc : Location) :
    Ordered (documentsBelow t p loc) := by
  rw [Ordered, documentsBelow, List.pairwise_filterMap]
  refine (Tree.pairwise_walk t t.depth loc).imp ?_
  rintro ⟨l, first⟩ ⟨m, second⟩ h ⟨l', s⟩ hs ⟨m', s'⟩ hs'
  obtain ⟨rfl, -⟩ := document?_eq_some_iff.mp hs
  obtain ⟨rfl, -⟩ := document?_eq_some_iff.mp hs'
  exact h

/-- Documents in order are known once it is known which there are. -/
theorem Ordered.eq_of_mem_iff (h : Ordered docs) (h' : Ordered docs')
    (hmem : ∀ doc, doc ∈ docs ↔ doc ∈ docs') : docs = docs' := by
  have hirrefl : Std.Irrefl fun a b : Location × String => Tree.Before a.1 b.1 :=
    ⟨fun a => Tree.not_before_self a.1⟩
  have hantisymm : Std.Antisymm fun a b : Location × String => Tree.Before a.1 b.1 :=
    ⟨fun a b hab hba => (Tree.not_before_self a.1 (List.lt_trans hab hba)).elim⟩
  exact List.Pairwise.eq_of_mem_iff h h' hmem

theorem load_of_not_accepted (c : Catalog) (h : ¬ Accepted source text) :
    (c.load source text).2 = c := by
  cases hload : c.load source text with
  | mk result c' =>
    cases result with
    | error err => exact Catalog.load_error hload
    | ok n =>
      rcases Catalog.load_eq_ok_iff.mp hload with ⟨_, _, _, _, _, hsame⟩ | ⟨d, es, hd, _⟩
      · exact hsame
      · exact (h ⟨d, es, hd⟩).elim

open scoped Classical in
/-- Documents that are not taken in may as well not be there. -/
theorem loadAll_filter (c : Catalog) (docs : List (Location × String)) :
    c.loadAll source (docs.filter fun doc => Accepted source doc.2) = c.loadAll source docs := by
  induction docs generalizing c with
  | nil => rfl
  | cons doc docs ih =>
    have hcons : c.loadAll source (doc :: docs) =
        (c.load source doc.2).2.loadAll source docs := rfl
    by_cases h : Accepted source doc.2
    · rw [List.filter_cons_of_pos (by simpa using h), hcons, ← ih]
      rfl
    · rw [List.filter_cons_of_neg (by simpa using h), ih, hcons, load_of_not_accepted c h]

open scoped Classical in
theorem Ordered.loadAll_eq (h : Ordered docs) (h' : Ordered docs')
    (hmem : ∀ l s, Accepted source s → ((l, s) ∈ docs ↔ (l, s) ∈ docs')) :
    c.loadAll source docs = c.loadAll source docs' := by
  have hsame : docs.filter (fun doc => Accepted source doc.2) =
      docs'.filter fun doc => Accepted source doc.2 := by
    refine Ordered.eq_of_mem_iff (List.Pairwise.filter _ h) (List.Pairwise.filter _ h') ?_
    rintro ⟨l, s⟩
    rw [List.mem_filter, List.mem_filter, decide_eq_true_eq]
    exact and_congr_left (hmem l s)
  rw [← loadAll_filter c docs, hsame, loadAll_filter]

theorem ofFolder_eq (source : Source) (h : t.find p = .ok (loc, .folder)) :
    Catalog.ofFolder t source p = .ok (Catalog.empty.loadAll source (documentsBelow t p loc)) := by
  rw [Catalog.ofFolder, h]

/-- A folder that is there has a catalog: its documents are loaded one after the other, in the order
of their names, into an empty one. What is not taken in changes nothing, so that folders with the
same accepted documents under the same names have the same catalog, whatever else they hold. -/
theorem ofFolder_documents (source : Source) (h : t.find p = .ok (loc, .folder)) :
    (∃ docs : List (Location × String), Ordered docs ∧
      (∀ l s, (l, s) ∈ docs ↔ DocumentAt t p loc l s) ∧
      Catalog.ofFolder t source p =
        .ok (docs.foldl (fun c doc => (c.load source doc.2).2) .empty)) ∧
    (∀ c s, ¬ Accepted source s → (Catalog.load source s c).2 = c) ∧
    ∀ t' p' loc', t'.find p' = .ok (loc', .folder) →
      (∀ l s, Accepted source s → (DocumentAt t p loc l s ↔ DocumentAt t' p' loc' l s)) →
      Catalog.ofFolder t source p = Catalog.ofFolder t' source p' := by
  refine ⟨⟨documentsBelow t p loc, ordered_documentsBelow t p loc, ?_, ofFolder_eq source h⟩,
    fun c s => load_of_not_accepted c, ?_⟩
  · intro l s
    exact mem_documentsBelow_iff
  · intro t' p' loc' h' hsame
    have hmem : ∀ l s, Accepted source s →
        ((l, s) ∈ documentsBelow t p loc ↔ (l, s) ∈ documentsBelow t' p' loc') := by
      intro l s hs
      rw [mem_documentsBelow_iff, mem_documentsBelow_iff]
      exact hsame l s hs
    rw [ofFolder_eq source h, ofFolder_eq source h',
      (ordered_documentsBelow t p loc).loadAll_eq (ordered_documentsBelow t' p' loc') hmem]

def cartText : String :=
  "\x7b\"namespace\": \"shop\", \"entities\": [\x7b\"name\": \"Cart\"\x7d]\x7d"

def tidy : Tree where
  entries := [(["s"], .folder), (["s", "a.json"], .file (.text cartText))]
  here := []

/-- Besides the document there are an empty folder, bytes that are no text, and a folder with a
document that breaks off. -/
def untidy : Tree where
  entries := [(["s"], .folder), (["s", "b"], .folder), (["s", "c.json"], .file (.binary [255])),
    (["s", "a.json"], .file (.text cartText)), (["s", "a"], .folder),
    (["s", "a", "z.json"], .file (.text "\x7b"))]
  here := []

theorem eq_of_reaches_tidy (h : tidy.Reaches ["s"] l (.text text)) :
    l = ["a.json"] ∧ text = cartText := by
  simpa [tidy] using h.mem_entries

theorem ofFolder_untidy :
    tidy.find ⟨"s"⟩ = .ok (["s"], .folder) ∧ untidy.find ⟨"s"⟩ = .ok (["s"], .folder) ∧
      Catalog.ofFolder tidy .models ⟨"s"⟩ = Catalog.ofFolder untidy .models ⟨"s"⟩ := by
  have htidy : tidy.find ⟨"s"⟩ = .ok (["s"], .folder) := by decide +kernel
  have huntidy : untidy.find ⟨"s"⟩ = .ok (["s"], .folder) := by decide +kernel
  have hbroken : (Document.ofText "\x7b").toBool = false := by decide +kernel
  refine ⟨htidy, huntidy, (ofFolder_documents .models htidy).2.2 _ _ _ huntidy ?_⟩
  rintro l s ⟨d, es, hd⟩
  constructor
  · rintro ⟨hreached, hjson, hshort⟩
    obtain ⟨rfl, rfl⟩ := eq_of_reaches_tidy hreached
    exact ⟨.file rfl, hjson, hshort⟩
  · rintro ⟨hreached, hjson, hshort⟩
    have hentry : l = ["a.json"] ∧ s = cartText ∨ l = ["a", "z.json"] ∧ s = "\x7b" := by
      simpa [untidy] using hreached.mem_entries
    obtain ⟨rfl, rfl⟩ | ⟨-, rfl⟩ := hentry
    · exact ⟨.file rfl, hjson, hshort⟩
    · rw [hd.read] at hbroken
      contradiction

/-- The folder `s` by a path with slashes behind its name. -/
def behind (n : Nat) : Path := ⟨"s" ++ String.ofList (List.replicate n '/')⟩

theorem utf8ByteSize_slashes (n : Nat) :
    (String.ofList (List.replicate n '/')).utf8ByteSize = n := by
  induction n with
  | zero => rfl
  | succ n ih =>
    rw [List.replicate_succ, ← List.singleton_append, String.ofList_append,
      String.utf8ByteSize_append, ih]
    exact Nat.add_comm 1 n

theorem utf8ByteSize_behind (n : Nat) : (behind n).text.utf8ByteSize = n + 1 := by
  rw [behind, String.utf8ByteSize_append, utf8ByteSize_slashes]
  exact Nat.add_comm 1 n

theorem namesOf_slashes (n : Nat) : namesOf (List.replicate n '/') = [] := by
  induction n with
  | zero => rfl
  | succ n ih =>
    rw [List.replicate_succ, ← List.nil_append ('/' :: _), namesOf_append, ih]
    rfl

theorem toList_behind (n : Nat) : (behind n).text.toList = 's' :: List.replicate n '/' := by
  simp [behind]

theorem names_behind (n : Nat) : (behind n).names = ["s"] := by
  rw [Path.names, toList_behind]
  cases n with
  | zero => rfl
  | succ n =>
    change namesOf (['s'] ++ '/' :: List.replicate n '/') = ["s"]
    rw [namesOf_append, namesOf_slashes]
    rfl

theorem start_behind {n : Nat} (hn : n < 4095) : tidy.start (behind n) = .ok ([], ["s"]) := by
  have hnul : '\x00' ∉ (behind n).text.toList := by
    simp [toList_behind, List.mem_replicate]
  have hne : (behind n).text ≠ "" := by
    intro h
    simpa [h] using toList_behind n
  have hlong : (behind n).isTooLong = false := by
    rw [Path.isTooLong, utf8ByteSize_behind]
    simpa using hn
  have habs : (behind n).isAbsolute = false := by
    rw [Path.isAbsolute, toList_behind]
    rfl
  simp [Tree.start, hnul, hne, hlong, habs, names_behind, tidy]

theorem find_behind {n : Nat} (hn : n < 4095) : tidy.find (behind n) = .ok (["s"], .folder) := by
  rw [Tree.find, start_behind hn]
  -- Whether the path ends in a slash makes no difference, since a folder is there.
  cases (behind n).endsInSlash <;> rfl

/-- Between a folder and the length at which no path is opened there may be no room for a name. -/
theorem documentsBelow_behind {n : Nat} (hn : 4094 ≤ n) :
    documentsBelow tidy (behind n) ["s"] = [] := by
  rw [List.eq_nil_iff_forall_not_mem]
  rintro ⟨l, text⟩ hdoc
  obtain ⟨hreached, -, hshort⟩ := mem_documentsBelow_iff.mp hdoc
  obtain ⟨rfl, rfl⟩ := eq_of_reaches_tidy hreached
  have hlong : 4096 ≤ ((behind n).inside ["a.json"]).text.utf8ByteSize := by
    have hsize := utf8ByteSize_behind n
    have hname : ("/".intercalate ["a.json"]).utf8ByteSize = 6 := by decide
    unfold Path.inside Path.join
    split
    · rename_i habs
      exact absurd habs (by decide)
    · split
      · rw [String.utf8ByteSize_append, hsize, hname]
        omega
      · rw [String.utf8ByteSize_append, String.utf8ByteSize_append, hsize, hname]
        omega
  simp [Path.isTooLong, hlong] at hshort

theorem ofFolder_long_path :
    tidy.find (behind 4094) = .ok (["s"], .folder) ∧
      tidy.Reaches ["s"] ["a.json"] (.text cartText) ∧ extension? "a.json" = some "json" ∧
      (Catalog.empty.load .models cartText).1 = .ok 1 ∧
      Catalog.ofFolder tidy .models (behind 4094) = .ok .empty := by
  have hfind := find_behind (show 4094 < 4095 by decide)
  refine ⟨hfind, .file rfl, by decide, by decide +kernel, ?_⟩
  rw [ofFolder_eq .models hfind, documentsBelow_behind (Nat.le_refl _)]
  rfl

end SchemaInterfaces.Schema
