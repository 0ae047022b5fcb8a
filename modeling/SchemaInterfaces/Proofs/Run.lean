import SchemaInterfaces.TypeScript.Export
import SchemaInterfaces.Proofs.Keyed
import SchemaInterfaces.Proofs.Synthesis

/-! Runs of an export: which files an output is asked for, where the run ends, and what the report
says. Nothing is assumed of the output, which may fail at any call. -/
namespace SchemaInterfaces.TypeScript
open Schema Disk

variable {ε σ : Type}

/-- A file that an output is asked to take. -/
structure Call where
  path : Path
  text : String
deriving Repr, DecidableEq

/-- The file of an entity, unless a field of it leads nowhere. -/
def file? (infer : Inferrer) (e : Entity) : Option Call :=
  match Interface.ofEntity infer e with
  | .ok (u, _) => some ⟨targetPath e, u.render⟩
  | .error _ => none

/-- The note on an entity of which a field leads nowhere. -/
def skip? (infer : Inferrer) (e : Entity) : Option Skipped :=
  match Interface.ofEntity infer e with
  | .ok _ => none
  | .error cause => some ⟨e.qualifiedName, cause⟩

/-- The files of entities, in order. -/
def files (infer : Inferrer) (es : List Entity) : List Call := es.filterMap (file? infer)

/-- The report on entities of which every file is taken. -/
def fullReport (infer : Inferrer) (es : List Entity) : Report where
  written := (files infer es).map (·.path)
  skipped := es.filterMap (skip? infer)
  fallbacks := ⟨(es.filter fun e => (file? infer e).isSome).flatMap (anyFields infer)⟩

theorem file?_eq_some_iff {infer : Inferrer} {e : Entity} {call : Call} :
    file? infer e = some call ↔
      ∃ u b, Interface.ofEntity infer e = .ok (u, b) ∧ ⟨targetPath e, u.render⟩ = call := by
  cases he : Interface.ofEntity infer e with
  | error cause => simp [file?, he]
  | ok w =>
    obtain ⟨u, b⟩ := w
    simp [file?, he]

/-- Entities with places of their own have files with places of their own. -/
theorem nodup_files {infer : Inferrer} {es : List Entity}
    (hd : (es.map fun e => (targetPath e).parts).Nodup) :
    ((files infer es).map (·.path.parts)).Nodup := by
  rw [files, List.Nodup, List.pairwise_map, List.pairwise_filterMap]
  refine (List.pairwise_map.mp hd).imp ?_
  intro e r hne call hcall other hother
  obtain ⟨u, b, _, rfl⟩ := file?_eq_some_iff.mp hcall
  obtain ⟨v, d, _, rfl⟩ := file?_eq_some_iff.mp hother
  exact hne

theorem mem_written_iff {infer : Inferrer} {es : List Entity} {p : Path} :
    p ∈ (fullReport infer es).written ↔
      ∃ e ∈ es, (∃ u b, Interface.ofEntity infer e = .ok (u, b)) ∧ targetPath e = p := by
  simp only [fullReport, files, List.mem_map, List.mem_filterMap, file?_eq_some_iff]
  constructor
  · rintro ⟨call, ⟨e, he, u, b, hu, rfl⟩, rfl⟩
    exact ⟨e, he, ⟨u, b, hu⟩, rfl⟩
  · rintro ⟨e, he, ⟨u, b, hu⟩, rfl⟩
    exact ⟨_, ⟨e, he, u, b, hu, rfl⟩, rfl⟩

/-- An output takes files one after the other, each in the state that the one before left. -/
inductive Takes (out : Output ε σ) : σ → List Call → σ → Prop where
  | nil (s : σ) : Takes out s [] s
  | cons {s t z : σ} {call : Call} {rest : List Call}
      (first : out call.path call.text s = (.ok (), t)) (more : Takes out t rest z) :
      Takes out s (call :: rest) z

/-- An output takes the files before some call and fails at that one. -/
def Stops (out : Output ε σ) (s : σ) (calls : List Call) (fault : ε) (z : σ) : Prop :=
  ∃ earlier call later t, calls = earlier ++ call :: later ∧ Takes out s earlier t ∧
    out call.path call.text t = (.error fault, z)

/-- A report and what a later part of the run adds to it. -/
def Report.append (r q : Report) : Report where
  written := r.written ++ q.written
  skipped := r.skipped ++ q.skipped
  fallbacks := r.fallbacks.append q.fallbacks

variable {out : Output ε σ} {infer : Inferrer} {e : Entity} {es : List Entity} {s z : σ}
  {r q : Report} {calls : List Call} {call : Call} {fault : ε}

theorem takes_cons_iff : Takes out s (call :: calls) z ↔
    ∃ t, out call.path call.text s = (.ok (), t) ∧ Takes out t calls z := by
  constructor
  · rintro (_ | ⟨first, more⟩)
    exact ⟨_, first, more⟩
  · rintro ⟨t, first, more⟩
    exact .cons first more

theorem not_stops_nil : ¬ Stops out s [] fault z := by
  rintro ⟨earlier, call, later, t, h, _⟩
  simp at h

theorem stops_cons_iff : Stops out s (call :: calls) fault z ↔
    out call.path call.text s = (.error fault, z) ∨
      ∃ t, out call.path call.text s = (.ok (), t) ∧ Stops out t calls fault z := by
  constructor
  · rintro ⟨earlier, last, later, t, h, htakes, hlast⟩
    cases earlier with
    | nil =>
      obtain ⟨rfl, rfl⟩ : call = last ∧ calls = later := by simpa using h
      cases htakes
      exact Or.inl hlast
    | cons first earlier =>
      obtain ⟨rfl, rfl⟩ : call = first ∧ calls = earlier ++ last :: later := by simpa using h
      obtain ⟨u, hu, hmore⟩ := takes_cons_iff.mp htakes
      exact Or.inr ⟨u, hu, earlier, last, later, t, rfl, hmore, hlast⟩
  · rintro (h | ⟨t, ht, earlier, last, later, u, rfl, htakes, hlast⟩)
    · exact ⟨[], call, calls, s, rfl, .nil s, h⟩
    · exact ⟨call :: earlier, last, later, u, rfl, .cons ht htakes, hlast⟩

theorem nil_append : Report.append {} r = r := by
  simp [Report.append, Fallbacks.append]

theorem append_fullReport_nil : r.append (fullReport infer []) = r := by
  simp [Report.append, fullReport, files, Fallbacks.append]

theorem append_fullReport_skip {cause : MissingTarget}
    (h : Interface.ofEntity infer e = .error cause) :
    (r.skip e cause).append (fullReport infer es) = r.append (fullReport infer (e :: es)) := by
  simp [Report.append, Report.skip, fullReport, files, file?, skip?, h]

theorem append_fullReport_write {u : Interface} {b : Fallbacks}
    (h : Interface.ofEntity infer e = .ok (u, b)) :
    ((r.note b).write (targetPath e)).append (fullReport infer es) =
      r.append (fullReport infer (e :: es)) := by
  have hb := Interface.fields_of_ofEntity h
  simp [Report.append, Report.note, Report.write, Fallbacks.append, fullReport, files, file?, skip?,
    h, hb]

theorem files_cons_skip {cause : MissingTarget} (h : Interface.ofEntity infer e = .error cause) :
    files infer (e :: es) = files infer es := by
  simp [files, file?, h]

theorem files_cons_write {u : Interface} {b : Fallbacks}
    (h : Interface.ofEntity infer e = .ok (u, b)) :
    files infer (e :: es) = ⟨targetPath e, u.render⟩ :: files infer es := by
  simp [files, file?, h]

/-- A run from any point on succeeds exactly if the output takes every file that is left. -/
theorem exportFrom_ok_iff : exportFrom out infer es r s = (.ok q, z) ↔
    Takes out s (files infer es) z ∧ q = r.append (fullReport infer es) := by
  induction es generalizing r s with
  | nil =>
    rw [exportFrom, append_fullReport_nil]
    constructor
    · intro h
      obtain ⟨rfl, rfl⟩ : r = q ∧ s = z := by simpa using h
      exact ⟨.nil s, rfl⟩
    · rintro ⟨h, rfl⟩
      cases h
      rfl
  | cons e es ih =>
    cases he : Interface.ofEntity infer e with
    | error cause =>
      rw [exportFrom, he, files_cons_skip he, ← append_fullReport_skip he]
      exact ih
    | ok w =>
      obtain ⟨u, b⟩ := w
      rw [exportFrom, he, files_cons_write he, ← append_fullReport_write he, takes_cons_iff]
      cases ho : out (targetPath e) u.render s with
      | mk result t =>
        cases result with
        | error fault => simp [ho]
        | ok _ => simp [ho, ih]

/-- A run from any point on fails exactly if the output stops at one of the files that are left. -/
theorem exportFrom_error_iff : exportFrom out infer es r s = (.error fault, z) ↔
    Stops out s (files infer es) fault z := by
  induction es generalizing r s with
  | nil => simp [exportFrom, files, not_stops_nil]
  | cons e es ih =>
    cases he : Interface.ofEntity infer e with
    | error cause =>
      rw [exportFrom, he, files_cons_skip he]
      exact ih
    | ok w =>
      obtain ⟨u, b⟩ := w
      rw [exportFrom, he, files_cons_write he, stops_cons_iff]
      cases ho : out (targetPath e) u.render s with
      | mk result t =>
        cases result with
        | error fault => simp [ho]
        | ok _ => simp [ho, ih]

/-- Every entity is written or skipped, and none is both. -/
theorem length_fullReport (infer : Inferrer) (es : List Entity) :
    (fullReport infer es).written.length + (fullReport infer es).skipped.length = es.length := by
  induction es with
  | nil => rfl
  | cons e es ih =>
    cases he : Interface.ofEntity infer e with
    | error cause =>
      simp [fullReport, files, file?, skip?, he] at ih ⊢
      omega
    | ok w =>
      simp [fullReport, files, file?, skip?, he] at ih ⊢
      omega

/-- A memory after it took some files. -/
def Memory.putAll (m : Memory) (calls : List Call) : Memory :=
  calls.foldl (fun m call => m.put call.path call.text) m

theorem files_putAll (m : Memory) (calls : List Call) :
    (m.putAll calls).files =
      Keyed.collect m.files (calls.map fun call => (call.path.parts, call.text)) := by
  induction calls generalizing m with
  | nil => rfl
  | cons call calls ih => exact ih (m.put call.path call.text)

/-- Among files at different places, each is kept with its own text. -/
theorem get?_putAll {m : Memory} (hd : (calls.map (·.path.parts)).Nodup) (h : call ∈ calls) :
    (m.putAll calls).get? call.path = some call.text := by
  have hsame : (List.instBEq : BEq (List Part)) = instBEqOfDecidableEq :=
    lawful_beq_subsingleton ..
  rw [Memory.get?, files_putAll, hsame]
  apply Keyed.lookup_collect_of_mem
  · rwa [List.map_map]
  · exact List.mem_map.mpr ⟨call, h, rfl⟩

/-- If no file is overwritten by another, each entity finds its text at its place. -/
theorem get?_putAll_file {m : Memory} {u : Interface} {b : Fallbacks}
    (hd : ((files infer es).map (·.path.parts)).Nodup) (he : e ∈ es)
    (hu : Interface.ofEntity infer e = .ok (u, b)) :
    (m.putAll (files infer es)).get? (targetPath e) = some u.render := by
  have hfile := file?_eq_some_iff.mpr ⟨u, b, hu, rfl⟩
  have hget := get?_putAll (m := m) hd (List.mem_filterMap.mpr ⟨e, he, hfile⟩)
  exact hget

theorem takes_memory (m : Memory) (calls : List Call) :
    Takes Memory.output m calls (m.putAll calls) := by
  induction calls generalizing m with
  | nil => exact .nil m
  | cons call calls ih => exact .cons rfl (ih (m.put call.path call.text))

theorem exportAll_memory (infer : Inferrer) (c : Catalog) (m : Memory) :
    exportAll Memory.output infer c m =
      (.ok (fullReport infer c.entities), m.putAll (files infer c.entities)) := by
  apply exportFrom_ok_iff.mpr
  exact ⟨takes_memory m _, nil_append.symm⟩

/-- Whatever the output does, an export hands it the files of the entities in order and reports on
all of them, or ends at the first file that fails, with its fault and without a further call. Every
entity is written or skipped, and a memory takes everything. -/
theorem exportAll_run (out : Output ε σ) (infer : Inferrer) (c : Catalog) (s : σ) :
    (∀ r z, exportAll out infer c s = (.ok r, z) ↔
      Takes out s (files infer c.entities) z ∧ r = fullReport infer c.entities) ∧
    (∀ fault z, exportAll out infer c s = (.error fault, z) ↔
      ∃ earlier call later t, files infer c.entities = earlier ++ call :: later ∧
        Takes out s earlier t ∧ out call.path call.text t = (.error fault, z)) ∧
    (fullReport infer c.entities).written.length +
      (fullReport infer c.entities).skipped.length = c.size ∧
    ∀ m, (exportAll Memory.output infer c m).1 = .ok (fullReport infer c.entities) := by
  refine ⟨?_, ?_, length_fullReport infer c.entities, ?_⟩
  · intro r z
    rw [exportAll, exportFrom_ok_iff, nil_append]
  · intro fault z
    exact exportFrom_error_iff
  · intro m
    rw [exportAll_memory]

end SchemaInterfaces.TypeScript
