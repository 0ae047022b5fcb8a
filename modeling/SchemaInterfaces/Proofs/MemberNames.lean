import Mathlib.Data.List.Nodup
import Mathlib.Data.List.Perm.Subperm
import SchemaInterfaces.Proofs.Enums
import SchemaInterfaces.Proofs.Ranges
import SchemaInterfaces.Proofs.Trimming

/-! Names of enum members: each choice takes the first name, tried from its label, that no earlier
one has, and the names, taken for labels, give themselves. -/
namespace SchemaInterfaces.TypeScript
open Schema Text

/-- The names that are tried for a base, in order: the base, then the base with 2, 3, … behind. -/
def candidate (base : String) : Nat → String
  | 0 => base
  | n + 1 => s!"{base}_{n + 2}"

/-- The first name tried for a base that is not used, after `n` names that are. -/
structure FirstFree (used : List String) (base : String) (n : Nat) (name : String) : Prop where
  eq : name = candidate base n
  free : name ∉ used
  taken : ∀ k < n, candidate base k ∈ used

/-- A text that is a member name as it stands: characters of names only, and a first one that is no
number. -/
structure NameText (s : String) : Prop where
  word : WordText s
  start : ∃ c, s.toList.head? = some c ∧ isNumeric c = false

variable {used : List String} {base label s t : String} {choices : List Choice} {c : Choice}
  {m : Member} {i n : Nat}

theorem toString_inj {k l : Nat} (h : toString k = toString l) : k = l := by
  have hdigits : Nat.toDigits 10 k = Nat.toDigits 10 l := by
    simpa using congrArg String.toList h
  simpa using congrArg (fun digits => Nat.ofDigitChars 10 digits 0) hdigits

theorem candidate_injective (base : String) : Function.Injective (candidate base) := by
  have hlonger : ∀ n, candidate base (n + 1) ≠ base := by
    intro n h
    have hlength := congrArg String.length h
    rw [show candidate base (n + 1) = base ++ "_" ++ toString (n + 2) from rfl,
      String.length_append, String.length_append, show "_".length = 1 from rfl] at hlength
    omega
  intro k l h
  cases k with
  | zero =>
    cases l with
    | zero => rfl
    | succ l => exact (hlonger l h.symm).elim
  | succ k =>
    cases l with
    | zero => exact (hlonger k h).elim
    | succ l =>
      have hnumber : base ++ "_" ++ toString (k + 2) = base ++ "_" ++ toString (l + 2) := h
      have := toString_inj ((String.append_right_inj _).mp hnumber)
      omega

/-- There are more candidates than used names, so at most as many of them in front are taken. -/
theorem le_length_of_taken (h : ∀ k < n, candidate base k ∈ used) : n ≤ used.length := by
  have hnodup : ((List.range n).map (candidate base)).Nodup :=
    List.nodup_range.map (candidate_injective base)
  have hsub : (List.range n).map (candidate base) ⊆ used := by
    intro name hname
    obtain ⟨k, hk, rfl⟩ := List.mem_map.mp hname
    exact h k (List.mem_range.mp hk)
  simpa using (List.subperm_of_subset hnodup hsub).length_le

/-- The search goes on while candidates are taken, and may only end early for want of tries. -/
theorem firstUnused_eq (fuel : Nat) (h : ∀ k < n + 1, candidate base k ∈ used) :
    ∃ l, firstUnused used base fuel (n + 2) = candidate base (l + 1) ∧
      (∀ k < l + 1, candidate base k ∈ used) ∧
      (candidate base (l + 1) ∉ used ∨ l = n + fuel) := by
  induction fuel generalizing n with
  | zero => exact ⟨n, rfl, h, .inr rfl⟩
  | succ fuel ih =>
    rw [firstUnused]
    split
    · rename_i htaken
      have hnext : ∀ k < n + 1 + 1, candidate base k ∈ used := by
        intro k hk
        rcases Nat.lt_succ_iff_lt_or_eq.mp hk with hk | rfl
        · exact h k hk
        · exact List.contains_iff_mem.mp htaken
      obtain ⟨l, heq, hl, hend⟩ := ih hnext
      exact ⟨l, heq, hl, hend.imp_right fun hl => by omega⟩
    · rename_i hfree
      exact ⟨n, rfl, h, .inl fun hmem => hfree (List.contains_iff_mem.mpr hmem)⟩

theorem freshName_firstFree (used : List String) (base : String) :
    ∃ n ≤ used.length, FirstFree used base n (freshName used base) := by
  unfold freshName
  split
  · rename_i htaken
    have hbase : ∀ k < 0 + 1, candidate base k ∈ used := by
      intro k hk
      obtain rfl : k = 0 := by omega
      exact List.contains_iff_mem.mp htaken
    obtain ⟨l, heq, hl, hend⟩ := firstUnused_eq used.length hbase
    have hle : l + 1 ≤ used.length := le_length_of_taken hl
    have hfree : candidate base (l + 1) ∉ used := hend.resolve_right (by omega)
    exact ⟨l + 1, hle, heq, heq ▸ hfree, hl⟩
  · rename_i hfree
    exact ⟨0, Nat.zero_le _, rfl, fun hmem => hfree (List.contains_iff_mem.mpr hmem), by simp⟩

theorem freshName_notMem (used : List String) (base : String) : freshName used base ∉ used := by
  obtain ⟨_, _, h⟩ := freshName_firstFree used base
  exact h.free

theorem freshName_of_notMem (h : base ∉ used) : freshName used base = base := by
  rw [freshName, if_neg (by simpa using h)]

theorem FirstFree.eq_base_iff {name : String} (h : FirstFree used base n name) :
    name = base ↔ base ∉ used := by
  constructor
  · rintro rfl
    exact h.free
  · intro hfree
    cases n with
    | zero => exact h.eq
    | succ n => exact (hfree (h.taken 0 (by omega))).elim

/-- Only what is used counts, not where it stands. -/
theorem FirstFree.congr {others : List String} {name : String} (h : FirstFree used base n name)
    (hsame : ∀ s, s ∈ used ↔ s ∈ others) : FirstFree others base n name :=
  ⟨h.eq, fun hmem => h.free ((hsame name).mpr hmem), fun k hk => (hsame _).mp (h.taken k hk)⟩

theorem notMem_used_of_mem (h : m ∈ membersFrom used choices) : m.name ∉ used := by
  induction choices generalizing used with
  | nil => simp [membersFrom] at h
  | cons c choices ih =>
    rw [membersFrom] at h
    rcases List.mem_cons.mp h with rfl | h
    · exact freshName_notMem used (memberName c.label)
    · exact fun hmem => ih h (List.mem_cons_of_mem _ hmem)

theorem nodup_names_membersFrom (used : List String) (choices : List Choice) :
    ((membersFrom used choices).map (·.name)).Nodup := by
  induction choices generalizing used with
  | nil => simp [membersFrom]
  | cons c choices ih =>
    rw [membersFrom, List.map_cons, List.nodup_cons]
    refine ⟨?_, ih _⟩
    intro h
    obtain ⟨m, hm, hname⟩ := List.mem_map.mp h
    exact notMem_used_of_mem hm (hname ▸ List.mem_cons_self)

/-- A member is named when those before it have their names. -/
theorem getElem?_membersFrom (h : choices[i]? = some c) : (membersFrom used choices)[i]? =
    some ⟨freshName ((((membersFrom used choices).take i).map (·.name)).reverse ++ used)
      (memberName c.label), c.value⟩ := by
  induction choices generalizing used i with
  | nil => simp at h
  | cons d choices ih =>
    cases i with
    | zero =>
      obtain rfl : d = c := by simpa using h
      simp [membersFrom]
    | succ i =>
      rw [membersFrom, List.getElem?_cons_succ, ih (by simpa using h)]
      simp

theorem firstFree_of_getElem? (h : choices[i]? = some c) :
    ∃ m, (membersFrom [] choices)[i]? = some m ∧ m.value = c.value ∧ ∃ n ≤ i,
      FirstFree (((membersFrom [] choices).take i).map (·.name)) (memberName c.label) n m.name := by
  obtain ⟨n, hn, hfirst⟩ := freshName_firstFree
    ((((membersFrom [] choices).take i).map (·.name)).reverse ++ []) (memberName c.label)
  refine ⟨_, getElem?_membersFrom h, rfl, n, hn.trans ?_, hfirst.congr fun s => ?_⟩
  · rw [List.append_nil, List.length_reverse, List.length_map]
    exact List.length_take_le ..
  · rw [List.append_nil, List.mem_reverse]

theorem NameText.append (hs : NameText s) (ht : WordText t) : NameText (s ++ t) := by
  refine ⟨hs.word.append ht, ?_⟩
  obtain ⟨c, hc, hstart⟩ := hs.start
  exact ⟨c, by rw [String.toList_append, List.head?_append, hc]; rfl, hstart⟩

theorem nameText_memberName (label : String) : NameText (memberName label) := by
  refine ⟨wordText_memberName label, ?_⟩
  have hline : isNumeric '_' = false := by decide
  unfold memberName
  dsimp only
  split
  · exact ⟨'_', rfl, hline⟩
  · rename_i c rest hname
    rw [String.toList_ofList]
    split
    · exact ⟨'_', rfl, hline⟩
    · rename_i hstart
      exact ⟨c, by rw [hname]; rfl, by simpa using hstart⟩

theorem nameText_candidate (h : NameText base) (n : Nat) : NameText (candidate base n) := by
  cases n with
  | zero => exact h
  | succ n => exact (h.append wordText_line).append (wordText_repr (n + 2))

theorem nameText_of_mem_membersFrom (h : m ∈ membersFrom used choices) : NameText m.name := by
  obtain ⟨i, hi⟩ := List.mem_iff_getElem?.mp h
  have hlt : i < choices.length := by
    simpa [membersFrom_length] using (List.getElem?_eq_some_iff.mp hi).1
  rw [getElem?_membersFrom (List.getElem?_eq_getElem hlt)] at hi
  obtain rfl := Option.some.inj hi
  obtain ⟨n, _, hfirst⟩ := freshName_firstFree
    ((((membersFrom used choices).take i).map (·.name)).reverse ++ used)
    (memberName choices[i].label)
  rw [hfirst.eq]
  exact nameText_candidate (nameText_memberName _) n

theorem trimChars_of_wordText {cs : List Char} (h : ∀ c ∈ cs, isWordChar c = true) :
    trimChars cs = cs :=
  trimChars_of_none fun c hc => isBlank_of_isWordChar (h c hc)

/-- What may stand as a name is left as it is. -/
theorem memberName_of_nameText (h : NameText s) : memberName s = s := by
  obtain ⟨c, hc, hstart⟩ := h.start
  obtain ⟨rest, hs⟩ := List.head?_eq_some_iff.mp hc
  have hsame : (s.toList.map fun c => if isAlphanumeric c then c else '_') = s.toList := by
    rw [List.map_congr_left fun d hd => ?_, List.map_id]
    have hd := h.word d hd
    rw [isWordChar, Bool.or_eq_true, beq_iff_eq] at hd
    split
    · rfl
    · simp_all
  rw [memberName, trimChars_of_wordText h.word, hsame, hs]
  simp [hstart, ← hs]

/-- Names that are apart and need no change give the members that they name. -/
theorem membersFrom_of_names {ms : List Member} (hnodup : (ms.map (·.name)).Nodup)
    (hused : ∀ m ∈ ms, m.name ∉ used) (hsame : ∀ m ∈ ms, memberName m.name = m.name) :
    membersFrom used (ms.map fun m => ⟨m.value, m.name⟩) = ms := by
  induction ms generalizing used with
  | nil => rfl
  | cons m ms ih =>
    rw [List.map_cons, List.nodup_cons] at hnodup
    have hname : freshName used (memberName m.name) = m.name := by
      rw [hsame m List.mem_cons_self, freshName_of_notMem (hused m List.mem_cons_self)]
    have hlater : ∀ l ∈ ms, l.name ∉ m.name :: used := by
      intro l hl hmem
      rcases List.mem_cons.mp hmem with heq | hmem
      · exact hnodup.1 (heq ▸ List.mem_map_of_mem hl)
      · exact hused l (List.mem_cons_of_mem m hl) hmem
    rw [List.map_cons, membersFrom, hname,
      ih hnodup.2 hlater fun l hl => hsame l (List.mem_cons_of_mem m hl)]

/-- An enum has one member for each choice, with its value and in order, and their names are apart.
The name of the choice at place `i` is the first of the names tried from its label that no earlier
member has; at most `i` are tried in vain before it, and it is the label's own form exactly if no
earlier member has that. Taking the names for labels gives the same enum. -/
theorem members_ofChoices (name : String) (choices : List Choice) :
    let members := (EnumDecl.ofChoices name choices).members
    members.map (·.value) = choices.map (·.value) ∧ (members.map (·.name)).Nodup ∧
    (∀ i c, choices[i]? = some c → ∃ m, members[i]? = some m ∧ m.value = c.value ∧
      (∃ n ≤ i, FirstFree ((members.take i).map (·.name)) (memberName c.label) n m.name) ∧
      (m.name = memberName c.label ↔ memberName c.label ∉ (members.take i).map (·.name))) ∧
    EnumDecl.ofChoices name (members.map fun m => ⟨m.value, m.name⟩) =
      EnumDecl.ofChoices name choices := by
  intro members
  have hnodup : (members.map (·.name)).Nodup := nodup_names_membersFrom [] choices
  refine ⟨membersFrom_values [] choices, hnodup, ?_, ?_⟩
  · intro i c hc
    obtain ⟨m, hm, hvalue, n, hn, hfirst⟩ := firstFree_of_getElem? hc
    exact ⟨m, hm, hvalue, ⟨n, hn, hfirst⟩, hfirst.eq_base_iff⟩
  · have hsame : ∀ m ∈ members, memberName m.name = m.name := fun m hm =>
      memberName_of_nameText (nameText_of_mem_membersFrom hm)
    have heq : membersFrom [] (members.map fun m => ⟨m.value, m.name⟩) = members :=
      membersFrom_of_names hnodup (by simp) hsame
    rw [EnumDecl.ofChoices, heq]
    rfl

/-- A number that is needed may be taken too. -/
example : (EnumDecl.ofChoices "E" [⟨"1", "A"⟩, ⟨"2", "A 2"⟩, ⟨"3", " A"⟩]).members.map (·.name) =
    ["A", "A_2", "A_3"] := by
  decide +kernel

end SchemaInterfaces.TypeScript
