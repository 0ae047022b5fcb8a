import SchemaInterfaces.Proofs.Depth

/-! Where paths lead. The names of a path alone decide that, whatever stands on the disk, and some
paths lead below a folder wherever that folder is. -/
namespace SchemaInterfaces.Disk
open Text

theorem head?_piecesOf_eq_empty_iff {s : List Char} :
    (piecesOf s).head? = some "" ↔ s = [] ∨ s.head? = some '/' := by
  cases s with
  | nil => simp [piecesOf, splitBy]
  | cons c cs =>
    rw [piecesOf, splitBy]
    cases h : splitBy (· == '/') cs with
    | nil => exact (splitBy_ne_nil _ cs h).elim
    | cons piece pieces => by_cases hc : c = '/' <;> simp [hc]

theorem prefix_of_mem_cuts {pieces front : List String} (h : front ∈ cuts pieces) :
    front <+: pieces.reverse := by
  induction pieces with
  | nil => simp_all [cuts]
  | cons piece rest ih =>
    have hrest : rest.reverse <+: (piece :: rest).reverse := by simp
    rw [cuts] at h
    split at h
    · exact (ih h).trans hrest
    · rcases List.mem_cons.mp h with rfl | h
      · exact List.prefix_refl _
      · exact (ih h).trans hrest

theorem exists_length_le (names : List String) : ∃ n, ∀ s ∈ names, s.length ≤ n := by
  induction names with
  | nil => exact ⟨0, by simp⟩
  | cons name names ih =>
    obtain ⟨n, hn⟩ := ih
    refine ⟨name.length + n, fun s hs => ?_⟩
    rcases List.mem_cons.mp hs with rfl | hs
    · omega
    · have := hn s hs
      omega

/-- Some ordinary text is none of those given. -/
theorem exists_ordinary_notMem (names : List String) : ∃ s, Ordinary s ∧ s ∉ names := by
  obtain ⟨n, hn⟩ := exists_length_le names
  have hlength : (String.ofList (List.replicate (n + 3) 'a')).length = n + 3 := by simp
  have hshort : ∀ s : String, s.length < 3 → String.ofList (List.replicate (n + 3) 'a') ≠ s := by
    rintro s hs rfl
    omega
  refine ⟨_, ⟨hshort "" (by decide), ?_, hshort "." (by decide), hshort ".." (by decide)⟩, ?_⟩
  · simp [List.mem_replicate]
  · intro hmem
    have := hn _ hmem
    omega

namespace Path
variable {p q r : Path} {here l outer inner : Location} {names front rest : List String}
  {s first name : String} {depth : Nat}

theorem isAbsolute_iff :
    p.isAbsolute ↔ p.text ≠ "" ∧ (piecesOf p.text.toList).head? = some "" := by
  rw [head?_piecesOf_eq_empty_iff, String.toList_eq_nil_iff, isAbsolute, beq_iff_eq]
  constructor
  · intro h
    refine ⟨?_, Or.inr h⟩
    rintro he
    simp [he] at h
  · rintro ⟨hne, h | h⟩
    · exact (hne h).elim
    · exact h

/-- The folder that the names of a path start from. -/
def base (p : Path) (here : Location) : Location := if p.isAbsolute then [] else here

/-- Where a path leads from the folder `here`, its points followed. -/
def locationFrom (p : Path) (here : Location) : Location := p.names.foldl enter (p.base here)

/-- The path goes through the location or leads to it. -/
def Passes (p : Path) (here l : Location) : Prop :=
  ∃ front, front <+: p.names ∧ l = front.foldl enter (p.base here)

theorem passes_locationFrom (p : Path) (here : Location) : p.Passes here (p.locationFrom here) :=
  ⟨p.names, List.prefix_refl _, rfl⟩

/-- The first pieces of a path, joined again, have some of its names. -/
theorem joined_front (hp : piecesOf p.text.toList = first :: rest) (hfront : front <+: rest) :
    piecesOf ("/".intercalate (first :: front)).toList = first :: front ∧
      (mk ("/".intercalate (first :: front))).names <+: p.names := by
  have hpre : first :: front <+: first :: rest := List.cons_prefix_cons.mpr ⟨rfl, hfront⟩
  have hpieces := piecesOf_intercalate (List.cons_ne_nil first front) fun n hn =>
    slash_notMem_of_mem_piecesOf (hp ▸ hpre.subset hn)
  refine ⟨hpieces, ?_⟩
  rw [names, names, namesOf, namesOf, hpieces, hp]
  exact hpre.filter _

/-- What is above a path starts where it starts and has some of its names. -/
theorem of_mem_above (h : q ∈ p.above) (hne : q.text ≠ "") :
    q.names <+: p.names ∧ q.isAbsolute = p.isAbsolute := by
  unfold above at h
  split at h
  · contradiction
  · rename_i rest hp
    obtain ⟨front, hfront, rfl⟩ := List.mem_map.mp h
    have hpre : front <+: rest := by
      simpa using prefix_of_mem_cuts (List.mem_of_mem_tail hfront)
    have htext : p.text ≠ "" := by
      intro he
      have hnil : rest = [] := by simpa [he, piecesOf, splitBy] using hp.symm
      simp [hnil, cuts] at hfront
    have habs : p.isAbsolute = true := isAbsolute_iff.mpr ⟨htext, by simp [hp]⟩
    rw [habs]
    by_cases hnil : front = []
    · rw [if_pos hnil]
      exact ⟨List.nil_prefix, rfl⟩
    · rw [if_neg hnil] at hne ⊢
      obtain ⟨hpieces, hnames⟩ := joined_front hp hpre
      exact ⟨hnames, isAbsolute_iff.mpr ⟨hne, by rw [hpieces]; rfl⟩⟩
  · rename_i first rest hfirst hp
    have hrel : ∀ {r : Path} {front : List String}, piecesOf r.text.toList = first :: front →
        r.isAbsolute = false := by
      intro r front hr
      rw [← Bool.not_eq_true, isAbsolute_iff, hr]
      rintro ⟨-, he⟩
      exact hfirst (Option.some.inj he)
    rcases List.mem_append.mp h with h | h
    · obtain ⟨front, hfront, rfl⟩ := List.mem_map.mp h
      have hpre : front <+: rest := by
        simpa using prefix_of_mem_cuts (List.mem_of_mem_tail hfront)
      obtain ⟨hpieces, hnames⟩ := joined_front hp hpre
      exact ⟨hnames, (hrel hpieces).trans (hrel hp).symm⟩
    · obtain rfl := List.mem_singleton.mp h
      exact (hne rfl).elim

theorem passes_of_mem_above (h : q ∈ p.above) (hne : q.text ≠ "") :
    p.Passes here (q.locationFrom here) := by
  obtain ⟨hnames, habs⟩ := of_mem_above h hne
  exact ⟨q.names, hnames, by rw [locationFrom, base, base, habs]⟩

theorem passes_of_mem_ancestors (h : q ∈ p.ancestors) : p.Passes here (q.locationFrom here) := by
  obtain ⟨hq, hne⟩ := List.mem_filter.mp h
  rcases List.mem_cons.mp hq with rfl | hq
  · exact q.passes_locationFrom here
  · exact passes_of_mem_above hq (by simpa using hne)

/-- A path above `p` goes through nothing but what `p` goes through. -/
theorem Passes.of_mem_above (h : q ∈ p.above) (hne : q.text ≠ "") (hl : q.Passes here l) :
    p.Passes here l := by
  obtain ⟨hnames, habs⟩ := Path.of_mem_above h hne
  obtain ⟨front, hfront, rfl⟩ := hl
  exact ⟨front, hfront.trans hnames, by rw [base, base, habs]⟩

theorem passes_of_above (hr : r ∈ p.above) (h : q ∈ r.ancestors) :
    p.Passes here (q.locationFrom here) := by
  have hne : r.text ≠ "" := by
    intro he
    obtain ⟨text⟩ := r
    dsimp only at he
    subst he
    have hnone : (mk "").ancestors = [] := by decide
    simp [hnone] at h
  exact (passes_of_mem_ancestors h).of_mem_above hr hne

theorem isAbsolute_join (hq : q.isAbsolute = false) : (p.join q).isAbsolute = p.isAbsolute := by
  obtain ⟨text⟩ := p
  by_cases htext : text = ""
  · subst htext
    have hjoin : (mk "").join q = q := by simp [join, hq]
    rw [hjoin, hq]
    rfl
  · obtain ⟨c, cs, hcs⟩ := List.exists_cons_of_ne_nil (mt String.toList_eq_nil_iff.mp htext)
    rw [join, hq, if_neg (by simp)]
    split <;> simp [isAbsolute, hcs]

theorem names_join (hq : q.isAbsolute = false) : (p.join q).names = p.names ++ q.names := by
  rw [join, hq, if_neg (by simp)]
  split
  · rename_i hp
    obtain ⟨text⟩ := p
    rcases opens_iff.mpr hp with he | ⟨dir, he⟩ <;> dsimp only at he <;> subst he
    · rw [String.empty_append]
      rfl
    · rw [names_slash]
      simp [names, namesOf_append]
  · simp [names, namesOf_append]

theorem names_join_name (p : Path) (h : Ordinary name) :
    (p.join ⟨name⟩).names = p.names ++ [name] := by
  have hnames : (mk name).names = [name] := namesOf_of_notMem h.no_slash h.ne_empty
  rw [names_join (TypeScript.isAbsolute_of_notMem h.no_slash), hnames]

theorem base_join (hq : q.isAbsolute = false) : (p.join q).base here = p.base here := by
  rw [base, base, isAbsolute_join hq]

theorem locationFrom_join (hq : q.isAbsolute = false) :
    (p.join q).locationFrom here = q.names.foldl enter (p.locationFrom here) := by
  rw [locationFrom, names_join hq, List.foldl_append, base_join hq]
  rfl

/-- Names that, followed from `depth` folders below a folder, never lead out of it. -/
def StaysIn : Nat → List String → Prop
  | _, [] => True
  | depth, name :: names =>
    if name = "." then StaysIn depth names
    else if name = ".." then 0 < depth ∧ StaysIn (depth - 1) names
    else StaysIn (depth + 1) names

instance StaysIn.decidable : (depth : Nat) → (names : List String) → Decidable (StaysIn depth names)
  | _, [] => inferInstanceAs (Decidable True)
  | depth, name :: names =>
    have := StaysIn.decidable depth names
    have := StaysIn.decidable (depth - 1) names
    have := StaysIn.decidable (depth + 1) names
    inferInstanceAs (Decidable (if name = "." then StaysIn depth names
      else if name = ".." then 0 < depth ∧ StaysIn (depth - 1) names
      else StaysIn (depth + 1) names))

theorem staysIn_here : StaysIn depth ("." :: names) ↔ StaysIn depth names := by
  rw [StaysIn, if_pos rfl]

theorem staysIn_up : StaysIn depth (".." :: names) ↔ 0 < depth ∧ StaysIn (depth - 1) names := by
  rw [StaysIn, if_neg (by decide), if_pos rfl]

theorem staysIn_name (hhere : name ≠ ".") (hup : name ≠ "..") :
    StaysIn depth (name :: names) ↔ StaysIn (depth + 1) names := by
  rw [StaysIn, if_neg hhere, if_neg hup]

theorem StaysIn.of_front (h : StaysIn depth names) (hfront : front <+: names) :
    StaysIn depth front := by
  induction names generalizing depth front with
  | nil => rwa [List.prefix_nil.mp hfront]
  | cons name names ih =>
    cases front with
    | nil => trivial
    | cons first front =>
      obtain ⟨rfl, hrest⟩ := List.cons_prefix_cons.mp hfront
      by_cases hhere : first = "."
      · subst hhere
        rw [staysIn_here] at h ⊢
        exact ih h hrest
      · by_cases hup : first = ".."
        · subst hup
          rw [staysIn_up] at h ⊢
          exact ⟨h.1, ih h.2 hrest⟩
        · rw [staysIn_name hhere hup] at h ⊢
          exact ih h hrest

theorem staysIn_append_name (h : Ordinary name) :
    StaysIn depth (names ++ [name]) ↔ StaysIn depth names := by
  induction names generalizing depth with
  | nil =>
    rw [List.nil_append, staysIn_name h.ne_here h.ne_up]
    exact Iff.rfl
  | cons first names ih =>
    rw [List.cons_append]
    by_cases hhere : first = "."
    · subst hhere
      rw [staysIn_here, staysIn_here, ih]
    · by_cases hup : first = ".."
      · subst hup
        rw [staysIn_up, staysIn_up, ih]
      · rw [staysIn_name hhere hup, staysIn_name hhere hup, ih]

theorem staysIn_of_notMem (h : ".." ∉ names) : StaysIn depth names := by
  induction names generalizing depth with
  | nil => trivial
  | cons name names ih =>
    rw [List.mem_cons, not_or] at h
    obtain ⟨hup, hrest⟩ := h
    by_cases hhere : name = "."
    · subst hhere
      exact staysIn_here.mpr (ih hrest)
    · exact (staysIn_name hhere (Ne.symm hup)).mpr (ih hrest)

/-- What stays in a folder ends below it. -/
theorem StaysIn.prefix_foldl (h : StaysIn inner.length names) :
    outer <+: names.foldl enter (outer ++ inner) := by
  induction names generalizing inner with
  | nil => exact List.prefix_append outer inner
  | cons name names ih =>
    rw [List.foldl_cons, enter]
    by_cases hhere : name = "."
    · subst hhere
      exact ih (staysIn_here.mp h)
    · rw [if_neg hhere]
      by_cases hup : name = ".."
      · subst hup
        obtain ⟨hpos, h⟩ := staysIn_up.mp h
        rw [if_pos rfl, List.dropLast_append_of_ne_nil (List.length_pos_iff.mp hpos)]
        exact ih (by rwa [List.length_dropLast])
      · have hlength : (inner ++ [name]).length = inner.length + 1 := by simp
        rw [if_neg hup, List.append_assoc]
        exact ih (by rwa [hlength, ← staysIn_name hhere hup])

theorem StaysIn.prefix_foldl_self (h : StaysIn 0 names) : outer <+: names.foldl enter outer := by
  have hpre : outer <+: names.foldl enter (outer ++ []) := StaysIn.prefix_foldl h
  rwa [List.append_nil] at hpre

/-- What does not stay in a folder loses the name of that folder. -/
theorem notMem_foldl_of_not_staysIn (h : ¬ StaysIn inner.length names) (houter : s ∉ outer)
    (hnames : s ∉ names) : s ∉ names.foldl enter (outer ++ s :: inner) := by
  induction names generalizing inner with
  | nil => exact (h trivial).elim
  | cons name names ih =>
    have hrest : s ∉ names := fun hs => hnames (List.mem_cons_of_mem name hs)
    rw [List.foldl_cons, enter]
    by_cases hhere : name = "."
    · subst hhere
      exact ih (mt staysIn_here.mpr h) hrest
    · rw [if_neg hhere]
      by_cases hup : name = ".."
      · subst hup
        rw [if_pos rfl]
        cases inner with
        | nil =>
          rw [List.dropLast_concat]
          intro hs
          exact (mem_foldl_enter hs).elim houter hrest
        | cons first inner =>
          rw [List.dropLast_append_of_ne_nil (by simp), List.dropLast_cons_of_ne_nil (by simp)]
          have hlength : (first :: inner).dropLast.length = inner.length := by simp
          refine ih (fun hin => h (staysIn_up.mpr ⟨by simp, ?_⟩)) hrest
          rwa [hlength] at hin
      · have hlength : (inner ++ [name]).length = inner.length + 1 := by simp
        rw [if_neg hup, List.append_assoc]
        exact ih (fun hin => h ((staysIn_name hhere hup).mpr (hlength ▸ hin))) hrest

/-- The path is relative and never leads out of the folder that it is seen from. -/
def Inside (p : Path) : Prop := p.isAbsolute = false ∧ StaysIn 0 p.names

instance (p : Path) : Decidable p.Inside := inferInstanceAs (Decidable (_ ∧ _))

/-- The name of an entry of a folder leads no further out than the folder does. -/
theorem inside_join_name (p : Path) (h : Ordinary name) : (p.join ⟨name⟩).Inside ↔ p.Inside := by
  rw [Inside, Inside, isAbsolute_join (TypeScript.isAbsolute_of_notMem h.no_slash),
    names_join_name p h, staysIn_append_name h]

theorem inside_of_notMem (h : '/' ∉ s.toList) : (mk s).Inside ↔ s ≠ ".." := by
  rw [Inside, TypeScript.isAbsolute_of_notMem h]
  by_cases hempty : s = ""
  · subst hempty
    decide
  · have hnames : (mk s).names = [s] := namesOf_of_notMem h hempty
    rw [hnames]
    by_cases hup : s = ".."
    · subst hup
      decide
    · by_cases hhere : s = "." <;> simp [StaysIn, hup, hhere]

theorem Inside.prefix_join (h : q.Inside) :
    p.locationFrom here <+: (p.join q).locationFrom here := by
  rw [locationFrom_join h.1]
  exact h.2.prefix_foldl_self

/-- What `q` goes through from the folder `p` lies below it, or is on the way to it. -/
theorem Inside.passes_join (h : q.Inside) (hl : (p.join q).Passes here l) :
    p.locationFrom here <+: l ∨ p.Passes here l := by
  obtain ⟨front, hfront, rfl⟩ := hl
  rw [names_join h.1] at hfront
  rw [base_join h.1]
  rcases List.prefix_or_prefix_of_prefix hfront (List.prefix_append p.names q.names) with
    hfront | ⟨names, rfl⟩
  · exact Or.inr ⟨front, hfront, rfl⟩
  · left
    rw [List.foldl_append]
    have hstays := h.2.of_front ((List.prefix_append_right_inj _).mp hfront)
    exact hstays.prefix_foldl_self

/-- A path is inside exactly if it leads below every folder that it may be seen from. -/
theorem inside_iff (here : Location) :
    q.Inside ↔ ∀ p : Path, p.locationFrom here <+: (p.join q).locationFrom here := by
  refine ⟨fun h p => h.prefix_join, fun h => ?_⟩
  obtain ⟨s, hs, hfresh⟩ := exists_ordinary_notMem (here ++ q.names)
  rw [List.mem_append, not_or] at hfresh
  have hfolder : (mk s).locationFrom here = here ++ [s] := by
    have habs : (mk s).isAbsolute = false := TypeScript.isAbsolute_of_notMem hs.no_slash
    have hnames : (mk s).names = [s] := namesOf_of_notMem hs.no_slash hs.ne_empty
    simp [locationFrom, base, habs, hnames, enter, hs.ne_here, hs.ne_up]
  have hmem : s ∈ ((mk s).join q).locationFrom here := by
    apply (h (mk s)).subset
    simp [hfolder]
  have hrel : q.isAbsolute = false := by
    by_contra hq
    have habs : q.isAbsolute = true := by simpa using hq
    rw [join, if_pos habs, locationFrom, base, if_pos habs] at hmem
    exact (mem_foldl_enter hmem).elim (by simp) hfresh.2
  refine ⟨hrel, ?_⟩
  by_contra hstays
  rw [locationFrom_join hrel, hfolder] at hmem
  have hlost : s ∉ q.names.foldl enter (here ++ [s]) :=
    notMem_foldl_of_not_staysIn hstays hfresh.1 hfresh.2
  exact hlost hmem

end Path
end SchemaInterfaces.Disk
