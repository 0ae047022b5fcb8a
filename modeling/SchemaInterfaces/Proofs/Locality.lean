import SchemaInterfaces.Proofs.Links
import SchemaInterfaces.Proofs.Places

/-! What an entity brings about in a run does not depend on the other entities, on their order or on
how many there are. -/
namespace SchemaInterfaces.TypeScript
open Schema Disk

variable {infer : Inferrer} {a b : Catalog} {es fs : List Entity} {e : Entity} {p : Path}
  {text : String}

/-- What an entity adds to the report of a run. -/
def ownReport (infer : Inferrer) (e : Entity) : Report := fullReport infer [e]

theorem fullReport_cons (infer : Inferrer) (e : Entity) (es : List Entity) :
    fullReport infer (e :: es) = (ownReport infer e).append (fullReport infer es) := by
  rw [← List.singleton_append, ownReport]
  simp only [fullReport, files, Report.append, Fallbacks.append, List.filterMap_append,
    List.filter_append, List.map_append, List.flatMap_append]

/-- A report holds what the entities add to it, one after the other. -/
theorem fullReport_eq_flatMap (infer : Inferrer) (es : List Entity) :
    (fullReport infer es).written = es.flatMap (fun e => (ownReport infer e).written) ∧
      (fullReport infer es).skipped = es.flatMap (fun e => (ownReport infer e).skipped) ∧
      (fullReport infer es).fallbacks.fields =
        es.flatMap (fun e => (ownReport infer e).fallbacks.fields) := by
  induction es with
  | nil => exact ⟨rfl, rfl, rfl⟩
  | cons e es ih =>
    obtain ⟨hwritten, hskipped, hfields⟩ := ih
    rw [fullReport_cons, List.flatMap_cons, List.flatMap_cons, List.flatMap_cons, ← hwritten,
      ← hskipped, ← hfields]
    exact ⟨rfl, rfl, rfl⟩

/-- At any point of a run into a memory, the next entity puts its file and adds its report. -/
theorem exportFrom_memory_cons (infer : Inferrer) (e : Entity) (rest : List Entity) (r : Report)
    (m : Memory) : exportFrom Memory.output infer (e :: rest) r m =
      exportFrom Memory.output infer rest (r.append (ownReport infer e))
        (m.putAll (files infer [e])) := by
  cases he : Interface.ofEntity infer e with
  | error cause =>
    have hown : (r.skip e cause).append (fullReport infer []) = r.append (fullReport infer [e]) :=
      append_fullReport_skip he
    rw [append_fullReport_nil] at hown
    rw [exportFrom, he, ownReport, ← hown, files_cons_skip he]
    rfl
  | ok w =>
    obtain ⟨u, b⟩ := w
    have hown : ((r.note b).write (targetPath e)).append (fullReport infer []) =
        r.append (fullReport infer [e]) := append_fullReport_write he
    rw [append_fullReport_nil] at hown
    rw [exportFrom, he, ownReport, ← hown, files_cons_write he]
    rfl

/-- If entities have places of their own, a run leaves at a path the text of the entity that belongs
there, and nothing where none does. -/
theorem get?_run_iff (hd : (es.map fun e => (targetPath e).parts).Nodup) :
    (Memory.putAll {} (files infer es)).get? p = some text ↔
      ∃ e ∈ es, (targetPath e).parts = p.parts ∧ file? infer e = some ⟨targetPath e, text⟩ := by
  constructor
  · intro hget
    rw [get?_putAll_eq, Option.map_eq_some_iff] at hget
    obtain ⟨call, hlast, rfl⟩ := hget
    obtain ⟨hcall, hparts⟩ := List.mem_filter.mp (List.mem_of_getLast? hlast)
    obtain ⟨e, he, hfile⟩ := List.mem_filterMap.mp hcall
    obtain ⟨u, b, -, rfl⟩ := file?_eq_some_iff.mp hfile
    exact ⟨e, he, of_decide_eq_true hparts, hfile⟩
  · rintro ⟨e, he, hparts, hfile⟩
    have hget := get?_putAll (m := {}) (nodup_files hd) (List.mem_filterMap.mpr ⟨e, he, hfile⟩)
    rwa [Memory.get?, hparts] at hget

/-- Entities that are among others with places of their own have the files there that they have
alone. -/
theorem get?_run_part (hsub : fs ⊆ es) (hd : (es.map fun e => (targetPath e).parts).Nodup)
    (hd' : (fs.map fun e => (targetPath e).parts).Nodup) :
    (Memory.putAll {} (files infer fs)).get? p = some text ↔
      (Memory.putAll {} (files infer es)).get? p = some text ∧
        ∃ e ∈ fs, (targetPath e).parts = p.parts := by
  rw [get?_run_iff hd, get?_run_iff hd']
  constructor
  · rintro ⟨e, he, hparts, hfile⟩
    exact ⟨⟨e, hsub he, hparts, hfile⟩, e, he, hparts⟩
  · rintro ⟨⟨e, he, hparts, hfile⟩, r, hr, hparts'⟩
    obtain rfl : e = r := List.inj_on_of_nodup_map hd he (hsub hr) (hparts.trans hparts'.symm)
    exact ⟨e, hr, hparts, hfile⟩

theorem perm_filter_mem (hsub : fs.Subperm es) (hd : es.Nodup) :
    fs.Perm (es.filter (· ∈ fs)) := by
  obtain ⟨gs, hperm, hgs⟩ := hsub
  refine (List.perm_ext_iff_of_nodup (hperm.nodup_iff.mp (hd.sublist hgs)) (hd.filter _)).mpr ?_
  intro e
  rw [List.mem_filter, decide_eq_true_eq]
  exact ⟨fun he => ⟨hgs.subset (hperm.mem_iff.mpr he), he⟩, fun h => h.2⟩

/-- Files and reports come entity by entity. Entities with places of their own have, in whatever
order and however many of the others are left out, the files that they have among all, and no other
file is written. What is skipped and whose type is not known is, but for the order, what these
entities add to a run on all. So neither an exclusion nor another order changes the file of an
entity that is still there. -/
theorem exportAll_local (infer : Inferrer) (hsub : b.entities.Subperm a.entities)
    (hd : (a.entities.map fun e => (targetPath e).parts).Nodup) :
    ∃ ra ma rb mb, exportAll Memory.output infer a {} = (.ok ra, ma) ∧
      exportAll Memory.output infer b {} = (.ok rb, mb) ∧
      (∀ p text, mb.get? p = some text ↔
        ma.get? p = some text ∧ ∃ e ∈ b.entities, (targetPath e).parts = p.parts) ∧
      (∀ e rest r m, exportFrom Memory.output infer (e :: rest) r m =
        exportFrom Memory.output infer rest (r.append (ownReport infer e))
          (m.putAll (files infer [e]))) ∧
      ra.skipped = a.entities.flatMap (fun e => (ownReport infer e).skipped) ∧
      ra.fallbacks.fields = a.entities.flatMap (fun e => (ownReport infer e).fallbacks.fields) ∧
      rb.skipped.Perm ((a.entities.filter (· ∈ b.entities)).flatMap
        fun e => (ownReport infer e).skipped) ∧
      rb.fallbacks.fields.Perm ((a.entities.filter (· ∈ b.entities)).flatMap
        fun e => (ownReport infer e).fallbacks.fields) ∧
      (a.names.Nodup → ∀ spaces, ∃ r m,
        exportAll Memory.output infer (a.exclude spaces) {} = (.ok r, m) ∧
          ∀ e ∈ a.entities, e.ns ∉ spaces → m.get? (targetPath e) = ma.get? (targetPath e)) ∧
      ∀ es, es.Perm a.entities → a.names.Nodup → ∃ r m,
        exportAll Memory.output infer (.ofList es) {} = (.ok r, m) ∧ ∀ p, m.get? p = ma.get? p := by
  have hnodup : a.entities.Nodup := .of_map _ hd
  have hpart : ∀ {fs : List Entity}, fs.Subperm a.entities →
      (fs.map fun e => (targetPath e).parts).Nodup := by
    rintro fs ⟨gs, hperm, hgs⟩
    exact (hperm.map _).nodup_iff.mp (hd.sublist (hgs.map _))
  have hperm := perm_filter_mem hsub hnodup
  obtain ⟨-, hskipped, hfields⟩ := fullReport_eq_flatMap infer a.entities
  obtain ⟨-, hskipped', hfields'⟩ := fullReport_eq_flatMap infer b.entities
  refine ⟨_, _, _, _, exportAll_memory infer a {}, exportAll_memory infer b {}, ?_,
    exportFrom_memory_cons infer, hskipped, hfields, ?_, ?_, ?_, ?_⟩
  · intro p text
    exact get?_run_part hsub.subset hd (hpart hsub)
  · rw [hskipped']
    exact hperm.flatMap_right _
  · rw [hfields']
    exact hperm.flatMap_right _
  · intro hnames spaces
    refine ⟨_, _, exportAll_memory infer (a.exclude spaces) {}, fun e he hns => ?_⟩
    rw [Catalog.entities_exclude hnames]
    have hleft : e ∈ a.entities.filter fun e => !spaces.contains e.ns := by
      simpa using ⟨he, hns⟩
    ext text
    rw [get?_run_part List.filter_sublist.subset hd (hpart List.filter_sublist.subperm)]
    exact and_iff_left ⟨e, hleft, rfl⟩
  · intro es hes hnames
    refine ⟨_, _, exportAll_memory infer (.ofList es) {}, fun p => ?_⟩
    rw [Catalog.entities_ofList ((hes.map _).nodup_iff.mpr hnames)]
    ext text
    rw [get?_run_part hes.subset hd (hpart hes.subperm), get?_run_iff hd]
    constructor
    · exact And.left
    · rintro ⟨e, he, hparts, hfile⟩
      exact ⟨⟨e, he, hparts, hfile⟩, e, hes.mem_iff.mpr he, hparts⟩

/-- An entity with a field that leads nowhere. -/
def stray : Entity where
  name := "Stray"
  ns := "shop"
  fields := [{ name := "owner", kind := .toOne }]

theorem exportAll_local_orders :
    let a := Catalog.ofList [customer, stray, order]
    let b := Catalog.ofList [order, stray]
    b.entities.Subperm a.entities ∧ (a.entities.map fun e => (targetPath e).parts).Nodup ∧
    ∃ ra ma rb mb, exportAll Memory.output heuristic a {} = (.ok ra, ma) ∧
      exportAll Memory.output heuristic b {} = (.ok rb, mb) ∧
      (∀ text, mb.get? (targetPath order) = some text ↔ ma.get? (targetPath order) = some text) ∧
      (∀ text, mb.get? (targetPath customer) ≠ some text) ∧ rb.skipped.length = 1 := by
  intro a b
  have ha : a.entities = [customer, stray, order] := by decide
  have hb : b.entities = [order, stray] := by decide
  have hsub : b.entities.Subperm a.entities := by
    rw [ha, hb]
    exact ⟨[stray, order], .swap .., List.sublist_cons_self ..⟩
  have hd : (a.entities.map fun e => (targetPath e).parts).Nodup := by
    rw [ha]
    decide
  obtain ⟨ra, ma, rb, mb, hrun, hrun', hfiles, -, -, -, hskipped, -⟩ :=
    exportAll_local heuristic hsub hd
  refine ⟨hsub, hd, ra, ma, rb, mb, hrun, hrun', fun text => ?_, fun text hget => ?_, ?_⟩
  · rw [hfiles]
    exact and_iff_left ⟨order, by rw [hb]; decide, rfl⟩
  · obtain ⟨-, e, he, hparts⟩ := (hfiles _ text).mp hget
    rw [hb] at he
    revert e
    decide
  · rw [hskipped.length_eq, ha, hb]
    decide

end SchemaInterfaces.TypeScript
