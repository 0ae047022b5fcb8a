import SchemaInterfaces.Proofs.Growth
import SchemaInterfaces.Proofs.Run

/-! Runs of an export onto a disk: what they make and write, and what can be found afterwards. -/
namespace SchemaInterfaces.TypeScript
open Schema Disk Disk.Tree

/-- On the way to the file of some call. -/
def OnTheWay (root : Path) (here : Location) (calls : List Call) (l : Location) : Prop :=
  ∃ call ∈ calls, (root.join call.path).Passes here l

/-- Where the file of a call lies, and its text. -/
def Handed (root : Path) (here : Location) (calls : List Call) (l : Location) (content : Content) :
    Prop :=
  ∃ call ∈ calls, l = (root.join call.path).locationFrom here ∧ content = .text call.text

variable {root : Path} {here l : Location} {infer : Inferrer} {c : Catalog} {t t' u : Tree}
  {call : Call} {calls rest : List Call} {fault : Fault}

theorem stores_call (root : Path) (call : Call) (t : Tree) :
    Stores (root.join call.path) (.text call.text) t (diskOutput root call.path call.text t) :=
  stores_writeDeep (root.join call.path) (.text call.text) t

theorem stores_of_taken (taken : diskOutput root call.path call.text t = (.ok (), u)) :
    Stores (root.join call.path) (.text call.text) t (.ok (), u) := taken ▸ stores_call root call t

/-- What a single call does is part of what the calls do. -/
theorem grows_call (hcall : call ∈ calls) (hhere : t.here = here) :
    Grows (OnTheWay root here calls) (Handed root here calls) t
      (diskOutput root call.path call.text t).2 := by
  subst hhere
  refine (stores_call root call t).grows.mono ?_ ?_
  · exact fun l hl => ⟨call, hcall, hl⟩
  · rintro l content ⟨hl, hcontent⟩
    exact ⟨call, hcall, hl, hcontent⟩

/-- What some calls do is part of what they do with another one. -/
theorem grows_cons (h : Grows (OnTheWay root here rest) (Handed root here rest) t t') :
    Grows (OnTheWay root here (call :: rest)) (Handed root here (call :: rest)) t t' := by
  refine h.mono ?_ ?_
  · rintro l ⟨other, hother, hl⟩
    exact ⟨other, List.mem_cons_of_mem call hother, hl⟩
  · rintro l content ⟨other, hother, hl⟩
    exact ⟨other, List.mem_cons_of_mem call hother, hl⟩

theorem grows_of_takes (h : Takes (diskOutput root) t calls t') :
    Grows (OnTheWay root t.here calls) (Handed root t.here calls) t t' := by
  induction h with
  | nil => exact .refl _
  | @cons s u z call rest first more ih =>
    have hfirst : Grows (OnTheWay root s.here (call :: rest)) (Handed root s.here (call :: rest)) s
        (diskOutput root call.path call.text s).2 := grows_call List.mem_cons_self rfl
    rw [first] at hfirst
    rw [hfirst.here] at ih
    exact hfirst.trans (grows_cons ih)

/-- A run that stops has done what the calls up to the failing one do. -/
theorem grows_of_stops (h : Stops (diskOutput root) t calls fault t') :
    Grows (OnTheWay root t.here calls) (Handed root t.here calls) t t' := by
  induction calls generalizing t with
  | nil => exact (not_stops_nil h).elim
  | cons call rest ih =>
    have hfirst : Grows (OnTheWay root t.here (call :: rest)) (Handed root t.here (call :: rest)) t
        (diskOutput root call.path call.text t).2 := grows_call List.mem_cons_self rfl
    rcases stops_cons_iff.mp h with h | ⟨u, hu, hmore⟩
    · rwa [h] at hfirst
    · rw [hu] at hfirst
      have hrest := ih hmore
      rw [hfirst.here] at hrest
      exact hfirst.trans (grows_cons hrest)

/-- However a run ends, it has made folders on the way to the files of its entities and written some
of these files, and nothing else. -/
theorem grows_exportAll (root : Path) (infer : Inferrer) (c : Catalog) (t : Tree) :
    Grows (OnTheWay root t.here (files infer c.entities))
      (Handed root t.here (files infer c.entities)) t
      (exportAll (diskOutput root) infer c t).2 := by
  cases hrun : exportAll (diskOutput root) infer c t with
  | mk result t' =>
    cases result with
    | ok r => exact grows_of_takes (exportFrom_ok_iff.mp hrun).1
    | error fault => exact grows_of_stops (exportFrom_error_iff.mp hrun)

/-- At every location that calls lead to stands the text of the last of them. -/
theorem entry_of_takes (h : Takes (diskOutput root) t calls t')
    (hlast : (calls.filter fun other =>
      (root.join other.path).locationFrom t.here = l).getLast? = some call) :
    t'.entry? l = some (.file (.text call.text)) := by
  induction h with
  | nil => contradiction
  | @cons s u z first rest taken more ih =>
    have hfirst := stores_of_taken taken
    rw [hfirst.grows.here] at ih
    by_cases hlater : ∃ other ∈ rest, (root.join other.path).locationFrom s.here = l
    · apply ih
      obtain ⟨other, hother, hl⟩ := hlater
      have hne : (rest.filter fun other => (root.join other.path).locationFrom s.here = l) ≠ [] :=
        List.ne_nil_of_mem (List.mem_filter.mpr ⟨hother, decide_eq_true hl⟩)
      rw [List.filter_cons] at hlast
      split at hlast
      · rwa [List.getLast?_cons_of_ne_nil hne] at hlast
      · exact hlast
    · have hnone : (rest.filter fun other => (root.join other.path).locationFrom s.here = l) = [] :=
        List.filter_eq_nil_iff.mpr fun other hother hl =>
          hlater ⟨other, hother, of_decide_eq_true hl⟩
      rw [List.filter_cons, hnone] at hlast
      split at hlast
      · rename_i hl
        obtain rfl := Option.some.inj hlast
        obtain rfl := of_decide_eq_true hl
        have hentry := (location_of_find (hfirst.found rfl)).2
        refine (grows_of_takes more).entry hentry ?_
        rw [hfirst.grows.here]
        rintro content ⟨other, hother, hl, -⟩
        exact hlater ⟨other, hother, hl.symm⟩
      · simp at hlast

/-- What was taken is found by its path. -/
theorem find_of_takes (h : Takes (diskOutput root) t calls t') (hcall : call ∈ calls) :
    ∃ content, t'.find (root.join call.path) =
      .ok ((root.join call.path).locationFrom t.here, .file content) := by
  induction h with
  | nil => contradiction
  | @cons s u z first rest taken more ih =>
    have hfirst := stores_of_taken taken
    rw [hfirst.grows.here] at ih
    rcases List.mem_cons.mp hcall with rfl | hcall
    · have hfind := hfirst.found rfl
      obtain ⟨content, hcontent⟩ := (grows_of_takes more).file (location_of_find hfind).2
      refine ⟨content, (grows_of_takes more).find hfind hcontent fun hend => ?_⟩
      exact (not_endsInSlash_of_find hfind hend).elim
    · exact ih hcall

end SchemaInterfaces.TypeScript
