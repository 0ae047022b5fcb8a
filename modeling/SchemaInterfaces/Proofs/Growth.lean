import SchemaInterfaces.Disk.Tree
import SchemaInterfaces.Proofs.Locations
import SchemaInterfaces.Proofs.Records

/-! What writing does to a disk: folders are made where nothing is, files are written where no
folder is, and nothing else changes, whether the operation ends well or not. -/
namespace SchemaInterfaces.Disk.Tree
open Reading (bind_eq_ok)

/-- What may become of a location: it stays as it is, or a folder is made where nothing was, or a
file is written where no folder was. -/
inductive Becomes (made : Prop) (wrote : Content → Prop) : Option Entry → Option Entry → Prop where
  | same (e : Option Entry) : Becomes made wrote e e
  | made (h : made) : Becomes made wrote none (some .folder)
  | wrote {e : Option Entry} {content : Content} (h : wrote content) (hne : e ≠ some .folder) :
    Becomes made wrote e (some (.file content))

/-- A disk after folders were made and files written at some locations. -/
structure Grows (made : Location → Prop) (wrote : Location → Content → Prop) (t t' : Tree) :
    Prop where
  here : t'.here = t.here
  becomes (l : Location) : Becomes (made l) (wrote l) (t.entry? l) (t'.entry? l)

variable {t t' u v : Tree} {p : Path} {loc l k : Location} {names : List String} {name : String}
  {e e' : Entry} {content : Content} {made made' : Location → Prop}
  {wrote wrote' : Location → Content → Prop}

theorem Grows.refl (t : Tree) : Grows made wrote t t := ⟨rfl, fun l => .same (t.entry? l)⟩

theorem Grows.trans (h : Grows made wrote t u) (h' : Grows made wrote u v) :
    Grows made wrote t v := by
  refine ⟨h'.here.trans h.here, fun l => ?_⟩
  have hfirst := h.becomes l
  have hsecond := h'.becomes l
  generalize t.entry? l = a at *
  generalize u.entry? l = b at *
  generalize v.entry? l = c at *
  cases hsecond with
  | same => exact hfirst
  | made hm =>
    cases hfirst
    exact .made hm
  | wrote hw hne =>
    refine .wrote hw ?_
    rintro rfl
    cases hfirst with
    | same => exact hne rfl
    | wrote _ hne' => exact hne' rfl

theorem Grows.mono (h : Grows made wrote t t') (hmade : ∀ l, made l → made' l)
    (hwrote : ∀ l content, wrote l content → wrote' l content) : Grows made' wrote' t t' := by
  refine ⟨h.here, fun l => ?_⟩
  have hl := h.becomes l
  generalize t.entry? l = a at *
  generalize t'.entry? l = b at *
  cases hl with
  | same => exact .same _
  | made hm => exact .made (hmade l hm)
  | wrote hw hne => exact .wrote (hwrote l _ hw) hne

theorem Grows.folder (h : Grows made wrote t t') (hl : t.entry? l = some .folder) :
    t'.entry? l = some .folder := by
  have hb := h.becomes l
  rw [hl] at hb
  generalize t'.entry? l = b at *
  cases hb with
  | same => rfl
  | wrote _ hne => exact (hne rfl).elim

theorem Grows.file (h : Grows made wrote t t') (hl : t.entry? l = some (.file content)) :
    ∃ content', t'.entry? l = some (.file content') := by
  have hb := h.becomes l
  rw [hl] at hb
  generalize t'.entry? l = b at *
  cases hb with
  | same => exact ⟨content, rfl⟩
  | wrote _ _ => exact ⟨_, rfl⟩

/-- Where nothing is written, what is there stays. -/
theorem Grows.entry (h : Grows made wrote t t') (hl : t.entry? l = some e)
    (hnot : ∀ content, ¬ wrote l content) : t'.entry? l = some e := by
  have hb := h.becomes l
  rw [hl] at hb
  generalize t'.entry? l = b at *
  cases hb with
  | same => rfl
  | wrote hw _ => exact (hnot _ hw).elim

/-- What is not as it was has been made or written. -/
theorem Grows.of_ne (h : Grows made wrote t t') (hne : t'.entry? l ≠ t.entry? l) :
    made l ∧ t.entry? l = none ∧ t'.entry? l = some .folder ∨
      ∃ content, wrote l content ∧ t'.entry? l = some (.file content) := by
  have hb := h.becomes l
  generalize t.entry? l = a at *
  generalize t'.entry? l = b at *
  cases hb with
  | same => exact (hne rfl).elim
  | made hm => exact Or.inl ⟨hm, rfl, rfl⟩
  | wrote hw _ => exact Or.inr ⟨_, hw, rfl⟩

theorem entry_put (hl : l ≠ []) :
    Tree.entry? (t.put l e) k = if k = l then some e else t.entry? k := by
  by_cases hk : k = []
  · subst hk
    simp [ entry?, Ne.symm hl]
  · have hsame : (List.instBEq : BEq Location) = instBEqOfDecidableEq := lawful_beq_subsingleton ..
    rw [ entry?, entry?, if_neg hk, if_neg hk, hsame]
    exact Keyed.lookup_put l k e t.entries

theorem ne_nil_of_not_folder (h : t.entry? l ≠ some .folder) : l ≠ [] := by
  rintro rfl
  exact h rfl

theorem grows_put_folder (h : t.entry? l = none) (hl : made l) :
    Grows made wrote t (t.put l .folder) := by
  have hne : l ≠ [] := ne_nil_of_not_folder (t := t) (by simp [h])
  refine ⟨rfl, fun k => ?_⟩
  rw [entry_put hne]
  by_cases hk : k = l
  · rw [if_pos hk, hk, h]
    exact .made hl
  · rw [if_neg hk]
    exact .same _

theorem grows_put_file (h : t.entry? l ≠ some .folder) (hl : wrote l content) :
    Grows made wrote t (t.put l (.file content)) := by
  refine ⟨rfl, fun k => ?_⟩
  rw [entry_put (ne_nil_of_not_folder h)]
  by_cases hk : k = l
  · rw [if_pos hk, hk]
    exact .wrote hl h
  · rw [if_neg hk]
    exact .same _

/-! Finding one's way. -/

theorem through_eq_ok_iff {x : Unit} : t.through loc = .ok x ↔ t.entry? loc = some .folder := by
  unfold through
  split <;> simp_all

theorem enter_eq_ok_iff : t.enter loc name = .ok l ↔ t.entry? loc = some .folder ∧
    (name = "." ∨ name = ".." ∨ name.utf8ByteSize ≤ 255) ∧ l = Path.enter loc name := by
  unfold enter Path.enter
  rw [bind_eq_ok]
  simp only [through_eq_ok_iff]
  by_cases hhere : name = "."
  · simp [hhere, pure, Except.pure, eq_comm]
  · by_cases hup : name = ".."
    · simp [hup, pure, Except.pure, eq_comm]
    · by_cases hlong : 255 < name.utf8ByteSize
      · have hnot : ¬ name.utf8ByteSize ≤ 255 := Nat.not_le.mpr hlong
        simp [hhere, hup, hlong, hnot, bind, Except.bind, throw, throwThe, MonadExceptOf.throw]
      · have hshort : name.utf8ByteSize ≤ 255 := Nat.not_lt.mp hlong
        simp [hhere, hup, hlong, hshort, pure, Except.pure, eq_comm]

/-- The names lead from the location through folders only. -/
def Leads (t : Tree) (loc : Location) (names : List String) : Prop :=
  ∀ front, front <+: names → front ≠ names →
    t.entry? (front.foldl Path.enter loc) = some .folder

theorem leads_cons_iff : t.Leads loc (name :: names) ↔
    t.entry? loc = some .folder ∧ t.Leads (Path.enter loc name) names := by
  constructor
  · intro h
    refine ⟨h [] List.nil_prefix (by simp), fun front hfront hne => ?_⟩
    exact h (name :: front) (List.cons_prefix_cons.mpr ⟨rfl, hfront⟩) (by simpa using hne)
  · rintro ⟨hloc, h⟩ front hfront hne
    cases front with
    | nil => exact hloc
    | cons first front =>
      obtain ⟨rfl, hrest⟩ := List.cons_prefix_cons.mp hfront
      exact h front hrest (by simpa using hne)

/-- Names are followed to the end exactly if they lead through folders and none is too long. -/
theorem foldlM_enter_eq_ok_iff : names.foldlM t.enter loc = .ok l ↔ t.Leads loc names ∧
    (∀ name ∈ names, name = "." ∨ name = ".." ∨ name.utf8ByteSize ≤ 255) ∧
      l = names.foldl Path.enter loc := by
  induction names generalizing loc with
  | nil =>
    have hnone : t.Leads loc [] := fun front hfront hne => (hne (List.prefix_nil.mp hfront)).elim
    simp [hnone, pure, Except.pure, eq_comm]
  | cons name names ih =>
    rw [List.foldlM_cons, bind_eq_ok, leads_cons_iff, List.forall_mem_cons, List.foldl_cons]
    simp only [enter_eq_ok_iff]
    constructor
    · rintro ⟨_, ⟨hloc, hname, rfl⟩, hrest⟩
      obtain ⟨hleads, hnames, hl⟩ := ih.mp hrest
      exact ⟨⟨hloc, hleads⟩, ⟨hname, hnames⟩, hl⟩
    · rintro ⟨⟨hloc, hleads⟩, ⟨hname, hnames⟩, hl⟩
      exact ⟨_, ⟨hloc, hname, rfl⟩, ih.mpr ⟨hleads, hnames, hl⟩⟩

theorem start_eq_ok {x : Location × List String} (h : t.start p = .ok x) :
    x = (p.base t.here, p.names) := by
  unfold start at h
  split at h
  · contradiction
  · split at h
    · contradiction
    · split at h
      · contradiction
      · exact (Except.ok.inj h).symm

theorem start_eq (hhere : u.here = t.here) : u.start p = t.start p := by
  rw [start, start, hhere]

theorem find_eq_ok_iff : t.find p = .ok (l, e) ↔ t.start p = .ok (p.base t.here, p.names) ∧
    p.names.foldlM t.enter (p.base t.here) = .ok l ∧ t.entry? l = some e ∧
      (p.endsInSlash → e = .folder) := by
  rw [find, bind_eq_ok]
  constructor
  · rintro ⟨⟨base, names⟩, hstart, h⟩
    obtain ⟨rfl, rfl⟩ := Prod.mk.inj (start_eq_ok hstart)
    obtain ⟨k, hk, h⟩ := bind_eq_ok.mp h
    refine ⟨hstart, ?_⟩
    split at h
    · contradiction
    · rename_i d hd
      split at h
      · obtain ⟨x, hx, h⟩ := bind_eq_ok.mp h
        obtain ⟨rfl, rfl⟩ := Prod.mk.inj (Except.ok.inj h)
        rw [through_eq_ok_iff, hd] at hx
        exact ⟨hk, hd, fun _ => Option.some.inj hx⟩
      · rename_i hend
        obtain ⟨rfl, rfl⟩ := Prod.mk.inj (Except.ok.inj h)
        exact ⟨hk, hd, fun h => (hend h).elim⟩
  · rintro ⟨hstart, hnames, he, hend⟩
    refine ⟨_, hstart, bind_eq_ok.mpr ⟨l, hnames, ?_⟩⟩
    simp only [he]
    split
    · rename_i hslash
      exact bind_eq_ok.mpr ⟨(), through_eq_ok_iff.mpr (he.trans (by rw [hend hslash])), rfl⟩
    · rfl

theorem location_of_find (h : t.find p = .ok (l, e)) :
    l = p.locationFrom t.here ∧ t.entry? l = some e := by
  obtain ⟨-, hnames, he, -⟩ := find_eq_ok_iff.mp h
  exact ⟨(foldlM_enter_eq_ok_iff.mp hnames).2.2, he⟩

/-- A path with a slash at the end finds no file. -/
theorem not_endsInSlash_of_find (h : t.find p = .ok (l, .file content)) : ¬ p.endsInSlash := by
  intro hend
  have hfolder := (find_eq_ok_iff.mp h).2.2.2 hend
  cases hfolder

/-- A path that leads somewhere still does when the disk has grown, to whatever is there then. -/
theorem Grows.find (h : Grows made wrote t t') (hfind : t.find p = .ok (l, e))
    (he : t'.entry? l = some e') (hend : p.endsInSlash → e' = .folder) :
    t'.find p = .ok (l, e') := by
  obtain ⟨hstart, hnames, -, -⟩ := find_eq_ok_iff.mp hfind
  obtain ⟨hleads, hshort, rfl⟩ := foldlM_enter_eq_ok_iff.mp hnames
  rw [find_eq_ok_iff, start_eq h.here, h.here]
  refine ⟨hstart, foldlM_enter_eq_ok_iff.mpr ⟨?_, hshort, rfl⟩, he, hend⟩
  exact fun front hfront hne => h.folder (hleads front hfront hne)

/-- What a grown disk finds by a path, and what stood where the path leads, was found before, unless
a folder on the way was missing. -/
theorem Grows.find_or_missing (h : Grows made wrote t t') (hfind : t'.find p = .ok (l, e'))
    (he : t.entry? l = some e) (hend : p.endsInSlash → e = .folder) : t.find p = .ok (l, e) ∨
      ∃ front, front <+: p.names ∧ front ≠ p.names ∧
        t.entry? (front.foldl Path.enter (p.base t.here)) = none := by
  obtain ⟨hstart, hnames, -, -⟩ := find_eq_ok_iff.mp hfind
  obtain ⟨hleads, hshort, rfl⟩ := foldlM_enter_eq_ok_iff.mp hnames
  rw [h.here] at hstart he hleads ⊢
  rw [start_eq h.here] at hstart
  by_cases hthere : t.Leads (p.base t.here) p.names
  · exact Or.inl (find_eq_ok_iff.mpr
      ⟨hstart, foldlM_enter_eq_ok_iff.mpr ⟨hthere, hshort, rfl⟩, he, hend⟩)
  · right
    simp only [Leads, not_forall] at hthere
    obtain ⟨front, hfront, hne, hno⟩ := hthere
    refine ⟨front, hfront, hne, ?_⟩
    rcases h.of_ne (fun hsame => hno (hsame ▸ hleads front hfront hne)) with hmade | ⟨_, _, hfile⟩
    · exact hmade.2.1
    · have hboth := (hleads front hfront hne).symm.trans hfile
      cases hboth

/-- A place for a new entry is a folder, and a name that is no point. -/
theorem place_eq_ok {parent : Location} (h : t.place p = .ok (parent, some name)) :
    t.start p = .ok (p.base t.here, p.names) ∧
      ∃ front, p.names = front ++ [name] ∧ front.foldlM t.enter (p.base t.here) = .ok parent ∧
        t.entry? parent = some .folder ∧ name ≠ "." ∧ name ≠ ".." := by
  rw [place, bind_eq_ok] at h
  obtain ⟨⟨base, names⟩, hstart, h⟩ := h
  obtain ⟨rfl, rfl⟩ := Prod.mk.inj (start_eq_ok hstart)
  obtain ⟨k, hk, h⟩ := bind_eq_ok.mp h
  obtain ⟨x, hx, h⟩ := bind_eq_ok.mp h
  obtain ⟨rfl, hlast⟩ := Prod.mk.inj (Except.ok.inj h)
  obtain ⟨hname, hpoints⟩ := Option.filter_eq_some_iff.mp hlast
  obtain ⟨front, hfront⟩ := List.getLast?_eq_some_iff.mp hname
  rw [hfront, List.dropLast_concat] at hk
  refine ⟨hstart, front, hfront, hk, through_eq_ok_iff.mp hx, ?_⟩
  simpa using hpoints

/-- Entering the last name of a path leads to where the path leads. -/
theorem enter_place {parent : Location} (h : t.place p = .ok (parent, some name))
    (hl : t.enter parent name = .ok l) : l = p.locationFrom t.here ∧
      p.names.foldlM t.enter (p.base t.here) = .ok l := by
  obtain ⟨-, front, hfront, hparent, -⟩ := place_eq_ok h
  have hall : p.names.foldlM t.enter (p.base t.here) = .ok l := by
    rw [hfront, List.foldlM_append]
    exact bind_eq_ok.mpr ⟨parent, hparent, bind_eq_ok.mpr ⟨l, hl, rfl⟩⟩
  exact ⟨(foldlM_enter_eq_ok_iff.mp hall).2.2, hall⟩

theorem makeFolder_eq_ok (h : t.makeFolder p = .ok t') :
    t.entry? (p.locationFrom t.here) = none ∧ t' = t.put (p.locationFrom t.here) .folder := by
  obtain ⟨⟨parent, last⟩, hplace, h⟩ := bind_eq_ok.mp h
  cases last with
  | none => contradiction
  | some name =>
    obtain ⟨l, hl, h⟩ := bind_eq_ok.mp h
    obtain ⟨rfl, -⟩ := enter_place hplace hl
    split at h
    · contradiction
    · rename_i hnone
      exact ⟨by simpa using hnone, (Except.ok.inj h).symm⟩

/-- A written file is where its path leads, in a place where no folder was. -/
theorem writeFile_eq_ok (h : t.writeFile p content = .ok t') :
    t.entry? (p.locationFrom t.here) ≠ some .folder ∧
      t' = t.put (p.locationFrom t.here) (.file content) ∧
      t'.find p = .ok (p.locationFrom t.here, .file content) := by
  obtain ⟨⟨parent, last⟩, hplace, h⟩ := bind_eq_ok.mp h
  cases last with
  | none => contradiction
  | some name =>
    by_cases hslash : p.endsInSlash
    · simp [hslash, throw, throwThe, MonadExceptOf.throw, bind, Except.bind] at h
    · simp only [hslash] at h
      obtain ⟨l, hl, h⟩ := bind_eq_ok.mp h
      obtain ⟨rfl, hnames⟩ := enter_place hplace hl
      split at h
      · contradiction
      · rename_i hne
        obtain rfl := Except.ok.inj h
        have hgrows : Grows (fun _ => False) (fun _ _ => True) t
            (t.put (p.locationFrom t.here) (.file content)) := grows_put_file hne trivial
        obtain ⟨hleads, hshort, -⟩ := foldlM_enter_eq_ok_iff.mp hnames
        refine ⟨hne, rfl, find_eq_ok_iff.mpr ⟨(place_eq_ok hplace).1, ?_, ?_, ?_⟩⟩
        · refine foldlM_enter_eq_ok_iff.mpr ⟨?_, hshort, rfl⟩
          exact fun front hfront hproper => hgrows.folder (hleads front hfront hproper)
        · rw [entry_put (ne_nil_of_not_folder hne), if_pos rfl]
        · exact fun hend => (hslash hend).elim

/-- Making folders changes nothing but that there are more of them. -/
theorem grows_makeFirst (paths : List Path) (t : Tree) :
    Grows (fun l => ∃ q ∈ paths, l = q.locationFrom t.here) (fun _ _ => False) t
      (makeFirst paths t).2 := by
  induction paths generalizing t with
  | nil => exact .refl t
  | cons p up ih =>
    have hmake : ∀ {u v : Tree}, u.here = t.here → u.makeFolder p = .ok v →
        Grows (fun l => ∃ q ∈ p :: up, l = q.locationFrom t.here) (fun _ _ => False) u v := by
      intro u v hu huv
      obtain ⟨hnone, rfl⟩ := makeFolder_eq_ok huv
      exact grows_put_folder hnone ⟨p, List.mem_cons_self, by rw [hu]⟩
    have hup : Grows (fun l => ∃ q ∈ p :: up, l = q.locationFrom t.here) (fun _ _ => False) t
        (makeFirst up t).2 := by
      refine (ih t).mono ?_ fun _ _ hw => hw
      rintro l ⟨q, hq, rfl⟩
      exact ⟨q, List.mem_cons_of_mem p hq, rfl⟩
    rw [makeFirst]
    split
    · rename_i u hu
      exact hmake rfl hu
    · split
      · rename_i fault u hu
        rwa [hu] at hup
      · rename_i x u hu
        rw [hu] at hup
        split
        · rename_i v hv
          exact hup.trans (hmake hup.here hv)
        · exact hup
    · exact .refl t

theorem grows_makeFolders (p : Path) (t : Tree) :
    Grows (p.Passes t.here) (fun _ _ => False) t (makeFolders p t).2 := by
  refine (grows_makeFirst p.ancestors t).mono ?_ fun _ _ hw => hw
  rintro l ⟨q, hq, rfl⟩
  exact Path.passes_of_mem_ancestors hq

/-- Storing a file makes folders on the way to it and, if it ends well, the file. -/
structure Stores (p : Path) (content : Content) (t : Tree) (r : Except Fault Unit × Tree) :
    Prop where
  grows : Grows (p.Passes t.here) (fun l c => l = p.locationFrom t.here ∧ c = content) t r.2
  found : r.1 = .ok () → r.2.find p = .ok (p.locationFrom t.here, .file content)

theorem Stores.of_fault {fault : Fault} (hu : Grows (p.Passes t.here)
    (fun l c => l = p.locationFrom t.here ∧ c = content) t u) :
    Stores p content t (.error fault, u) := by
  refine ⟨hu, fun h => ?_⟩
  cases h

/-- What ends as writing the file does, once folders on the way to it were made, stores it. -/
theorem stores_write {r : Except Fault Unit × Tree} (hu : Grows (p.Passes t.here)
      (fun l c => l = p.locationFrom t.here ∧ c = content) t u)
    (hfault : ∀ fault, u.writeFile p content = .error fault → r = (.error fault, u))
    (hok : ∀ v, u.writeFile p content = .ok v → r = (.ok (), v)) : Stores p content t r := by
  cases hwrite : u.writeFile p content with
  | error fault =>
    rw [hfault fault hwrite]
    exact .of_fault hu
  | ok v =>
    obtain ⟨hne, rfl, hfind⟩ := writeFile_eq_ok hwrite
    rw [hok _ hwrite, hu.here]
    rw [hu.here] at hne hfind
    exact ⟨hu.trans (grows_put_file hne ⟨rfl, rfl⟩), fun _ => hfind⟩

theorem stores_writeDeep (p : Path) (content : Content) (t : Tree) :
    Stores p content t (writeDeep p content t) := by
  unfold writeDeep
  dsimp only
  split
  · exact stores_write (.refl t) (fun fault h => by rw [h]) fun v h => by rw [h]
  · rename_i parent hparent
    have hu : Grows (p.Passes t.here) (fun l c => l = p.locationFrom t.here ∧ c = content) t
        (makeFolders parent t).2 := by
      refine (grows_makeFirst parent.ancestors t).mono ?_ fun _ _ hw => hw.elim
      rintro l ⟨q, hq, rfl⟩
      exact Path.passes_of_above (List.mem_of_head? hparent) hq
    split
    · rename_i x u hmade
      rw [hmade] at hu
      exact stores_write hu (fun fault h => by rw [h]) fun v h => by rw [h]
    · rename_i fault u hmade
      rw [hmade] at hu
      exact .of_fault hu

end SchemaInterfaces.Disk.Tree
