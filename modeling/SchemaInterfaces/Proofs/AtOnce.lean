import SchemaInterfaces.Proofs.Placeholders

/-! Filling in one variable after the other against filling in all at once. The two agree unless a
value becomes part of a placeholder whose turn is still to come. -/
namespace SchemaInterfaces.Placeholders

/-- The values of the variables that are set. -/
def values (env : Environment) : List Char → Option (List Char) :=
  fun name => (env (String.ofList name)).map String.toList

/-- The values of some variables. -/
def among (done : List (List Char)) (value : List Char → Option (List Char)) :
    List Char → Option (List Char) :=
  fun name => if name ∈ done then value name else none

/-- Puts the values of all variables in the place of their placeholders at once. -/
def atOnce (env : Environment) (s : String) : String :=
  String.ofList (filled (values env) s.toList)

/-- Between the beginning of a placeholder and the end of it, or with one of them or none, a value
makes the placeholder whole. -/
def Completes (v m : List Char) : Prop :=
  ∃ a b, (a <+: m ∧ a ≠ m) ∧ (b <:+ m ∧ b ≠ m) ∧ m <:+: a ++ v ++ b

/-- No value completes a placeholder of these variables, unless that stands for itself. -/
def Independent (env : Environment) (V : List Char → Prop) : Prop :=
  ∀ a n, V a → V n → IsVariable a → IsVariable n →
    ∀ v w, values env a = some v → values env n = some w → w ≠ mark n → ¬ Completes v (mark n)

variable {env : Environment} {V : List Char → Prop} {value : List Char → Option (List Char)}
  {n name a u v w m s y : List Char} {done ns : List (List Char)}

theorem Completes.of_inside (hm : m ≠ []) (h : m <:+: v) : Completes v m :=
  ⟨[], [], ⟨List.nil_prefix, hm.symm⟩, ⟨List.nil_suffix, hm.symm⟩, by simpa using h⟩

/-- A placeholder that begins in a value. -/
theorem Completes.of_begins {front rest : List Char} (hm : m ≠ []) (hrest : rest ≠ [])
    (h : m <+: rest ++ y) : Completes (front ++ rest) m := by
  rcases List.prefix_or_prefix_of_prefix h (List.prefix_append rest y) with hin | ⟨b, rfl⟩
  · exact .of_inside hm (hin.isInfix.trans (List.suffix_append front rest).isInfix)
  · refine ⟨[], b, ⟨List.nil_prefix, hm.symm⟩, ⟨List.suffix_append rest b, ?_⟩, ?_⟩
    · simpa using hrest
    · exact ⟨front, [], by simp⟩

/-- A placeholder that has begun before a value and goes on in it. -/
theorem Completes.of_goes_on (ha : a ≠ []) (hu : u ≠ []) (h : u <+: v ++ y) :
    Completes v (a ++ u) := by
  have hfront : a <+: a ++ u ∧ a ≠ a ++ u := ⟨List.prefix_append a u, by simpa using hu⟩
  rcases List.prefix_or_prefix_of_prefix h (List.prefix_append v y) with hin | ⟨b, rfl⟩
  · refine ⟨a, [], hfront, ⟨List.nil_suffix, by simp [ha]⟩, ?_⟩
    rw [List.append_nil]
    exact ((List.prefix_append_right_inj a).mpr hin).isInfix
  · refine ⟨a, b, hfront, ⟨⟨a ++ v, by simp⟩, ?_⟩, ?_⟩
    · intro heq
      have hlength := congrArg List.length heq
      have hpos := List.length_pos_iff.mpr ha
      rw [List.length_append, List.length_append] at hlength
      omega
    · rw [List.append_assoc]

/-- Nothing is replaced in a value that completes no placeholder of the variable. -/
theorem replaceAll_append_value (h : ¬ Completes v (mark n)) :
    replaceAll (mark n) w (v ++ y) = v ++ replaceAll (mark n) w y := by
  have hrest : ∀ front rest, v = front ++ rest →
      replaceAll (mark n) w (rest ++ y) = rest ++ replaceAll (mark n) w y := by
    intro front rest
    induction rest generalizing front with
    | nil => simp
    | cons c rest ih =>
      intro hv
      have hne : ¬ mark n <+: c :: (rest ++ y) := fun hprefix =>
        h (hv ▸ .of_begins (mark_ne_nil n) (by simp) hprefix)
      rw [List.cons_append, replaceAll_cons hne, ih (front ++ [c]) (by simp [hv]), List.cons_append]
  exact hrest [] v rfl

/-- What has begun as a placeholder before a text, and goes on as one when the text is filled in,
goes on so in the text itself, unless a value completes it. -/
theorem prefix_of_prefix_filled (hn : IsVariable n)
    (h : ∀ name ∈ names s, ∀ v, value name = some v → ¬ Completes v (mark n))
    (ha : a ≠ []) (hmark : mark n = a ++ u) (hu : u <+: filled value s) : u <+: s := by
  induction s using text_induction generalizing a u with
  | nil => exact hu
  | plain c s hfirst ih =>
    rw [names_cons hfirst] at h
    rw [filled_cons hfirst] at hu
    cases u with
    | nil => exact List.nil_prefix
    | cons d u =>
      obtain ⟨rfl, hbehind⟩ := List.cons_prefix_cons.mp hu
      have hrest := ih (a := a ++ [d]) h (by simp) (by simp [hmark]) hbehind
      exact List.cons_prefix_cons.mpr ⟨rfl, hrest⟩
  | placeholder name s hname ih =>
    rw [names_mark_append hname, List.forall_mem_cons] at h
    rw [filled_mark_append hname] at hu
    by_cases hne : u = []
    · exact hne ▸ List.nil_prefix
    · refine (?_ : False).elim
      cases hv : value name with
      | some v =>
        rw [hv, Option.getD_some] at hu
        exact h.1 v hv (hmark ▸ .of_goes_on ha hne hu)
      | none =>
        -- A placeholder that is kept begins with a dollar sign, and the rest of the other has none.
        obtain ⟨d, u, rfl⟩ := List.exists_cons_of_ne_nil hne
        obtain ⟨rest, hdollar, -⟩ := mark_eq_cons hname
        rw [hv, Option.getD_none, hdollar, List.cons_append] at hu
        obtain ⟨rfl, -⟩ := List.cons_prefix_cons.mp hu
        exact dollar_notMem_of_mark_eq hn ha hmark (by simp)

theorem among_eq_some_iff : among done value name = some v ↔ name ∈ done ∧ value name = some v := by
  rw [among]
  split <;> simp_all

theorem among_cons_self : among (n :: done) value n = value n := by simp [among]

theorem among_cons_of_ne (h : name ≠ n) :
    among (n :: done) value name = among done value name := by
  simp [among, h]

/-- If no value that is filled in already completes a placeholder of a variable, just its own
placeholders are there to be replaced. -/
theorem replaceAll_filled (hn : IsVariable n) (hw : value n = some w)
    (h : ∀ name ∈ done, ∀ v, value name = some v → ¬ Completes v (mark n)) (s : List Char) :
    replaceAll (mark n) w (filled (among done value) s) = filled (among (n :: done) value) s := by
  have hvalue : ∀ name v, among done value name = some v → ¬ Completes v (mark n) := by
    intro name v hv
    obtain ⟨hdone, hv⟩ := among_eq_some_iff.mp hv
    exact h name hdone v hv
  induction s using text_induction with
  | nil => rfl
  | plain c s hfirst ih =>
    have hne : ¬ mark n <+: c :: filled (among done value) s := by
      intro hprefix
      obtain ⟨rest, hmark, -⟩ := mark_eq_cons hn
      rw [hmark] at hprefix
      obtain ⟨rfl, hrest⟩ := List.cons_prefix_cons.mp hprefix
      have hbehind := prefix_of_prefix_filled hn (fun name _ => hvalue name) (a := ['$']) (by simp)
        hmark hrest
      exact first?_eq_none_iff.mp hfirst n hn
        (hmark ▸ List.cons_prefix_cons.mpr ⟨rfl, hbehind⟩)
    rw [filled_cons hfirst, replaceAll_cons hne, ih, filled_cons hfirst]
  | placeholder name s hname ih =>
    rw [filled_mark_append hname, filled_mark_append hname]
    cases hv : among done value name with
    | some v =>
      obtain ⟨hdone, hset⟩ := among_eq_some_iff.mp hv
      have hlater := among_eq_some_iff.mpr ⟨List.mem_cons_of_mem n hdone, hset⟩
      rw [hlater, Option.getD_some, replaceAll_append_value (hvalue name v hv), ih]
    | none =>
      rw [Option.getD_none]
      by_cases heq : name = n
      · subst heq
        rw [replaceAll_mark_append, ih, among_cons_self, hw, Option.getD_some]
      · rw [replaceAll_other_append hn hname heq, ih, among_cons_of_ne heq, hv, Option.getD_none]

theorem fill_eq (hn : IsVariable n) (s : List Char) :
    fill env s n = replaceAll (mark n) ((values env n).getD (mark n)) s := by
  rw [fill, values]
  cases env (String.ofList n) with
  | some value => rfl
  | none => exact ((replaceAll_eq_self_iff hn).mpr (.inl rfl)).symm

/-- The turn of a variable, after those that are done. -/
theorem fill_filled (h : Independent env V) (hn : V n ∧ IsVariable n)
    (hdone : ∀ name ∈ done, V name ∧ IsVariable name) (s : List Char) :
    fill env (filled (among done (values env)) s) n =
      filled (among (n :: done) (values env)) s := by
  rw [fill_eq hn.2]
  by_cases hsame : (values env n).getD (mark n) = mark n
  · rw [(replaceAll_eq_self_iff hn.2).mpr (.inl hsame)]
    refine filled_congr ?_
    intro name _
    by_cases heq : name = n
    · subst heq
      rw [among_cons_self, hsame, among]
      split
      · exact hsame
      · rfl
    · rw [among_cons_of_ne heq]
  · cases hw : values env n with
    | none => simp [hw] at hsame
    | some w =>
      rw [hw, Option.getD_some] at hsame
      refine replaceAll_filled hn.2 hw ?_ s
      intro name hname v hv
      obtain ⟨hV, hvariable⟩ := hdone name hname
      exact h name n hV hn.1 hvariable hn.2 v w hv hw hsame

/-- After every turn the variables so far are filled in as if at once. -/
theorem foldl_fill (h : Independent env V) (hns : ∀ n ∈ ns, V n ∧ IsVariable n)
    (hdone : ∀ n ∈ done, V n ∧ IsVariable n) (s : List Char) :
    ns.foldl (fill env) (filled (among done (values env)) s) =
      filled (among (ns.reverse ++ done) (values env)) s := by
  induction ns generalizing done with
  | nil => rfl
  | cons n ns ih =>
    rw [List.forall_mem_cons] at hns
    rw [List.foldl_cons, fill_filled h hns.1 hdone,
      ih hns.2 (List.forall_mem_cons.mpr ⟨hns.1, hdone⟩), List.reverse_cons, List.append_assoc,
      List.singleton_append]

theorem substitute_eq_atOnce {s : String} (h : Independent env V)
    (hs : ∀ n ∈ names s.toList, V n) : substitute env s = atOnce env s := by
  have hstart : filled (among [] (values env)) s.toList = s.toList := by
    refine (filled_congr ?_).trans (filled_none _)
    intro name _
    simp [among]
  have hnames : ∀ n ∈ names s.toList, V n ∧ IsVariable n :=
    fun n hn => ⟨hs n hn, isVariable_of_mem_names hn⟩
  have hrun : (names s.toList).foldl (fill env) (filled (among [] (values env)) s.toList) =
      filled (among ((names s.toList).reverse ++ []) (values env)) s.toList :=
    foldl_fill h hnames (by simp) s.toList
  rw [hstart, List.append_nil] at hrun
  rw [substitute, hrun, atOnce]
  congr 1
  refine filled_congr ?_
  intro name hname
  rw [among, if_pos (List.mem_reverse.mpr hname)]

/-- Where a value completes a placeholder, there is a text of two placeholders that goes wrong: the
value is put between the beginning and the end of the placeholder, and is replaced with them when
its turn comes. -/
theorem exists_substitute_ne (ha : IsVariable a) (hn : IsVariable n) (hv : values env a = some v)
    (hw : values env n = some w) (hne : w ≠ mark n) (h : Completes v (mark n)) :
    ∃ s : String, names s.toList = [a, n] ∧ substitute env s ≠ atOnce env s := by
  obtain ⟨front, back, hfront, hback, hwhole⟩ := h
  have hfront := plain_of_front hn hfront.1 hfront.2
  have hback := plain_of_back hn hback.1 hback.2
  have hfilled : ∀ value, filled value (front ++ mark a ++ (back ++ mark n ++ [])) =
      front ++ (value a).getD (mark a) ++ back ++ (value n).getD (mark n) := by
    intro value
    rw [filled_append_mark ha, filled_append_mark hn, filled_of_plain hfront,
      filled_of_plain hback, filled_nil]
    simp
  have hnames : names (front ++ mark a ++ (back ++ mark n ++ [])) = [a, n] := by
    rw [names_append_mark ha, names_append_mark hn, names_of_plain hfront, names_of_plain hback]
    rfl
  refine ⟨String.ofList (front ++ mark a ++ (back ++ mark n ++ [])), ?_, ?_⟩
  · rw [String.toList_ofList, hnames]
  · intro heq
    have hturns : replaceAll (mark n) w (front ++ v ++ back ++ (single a v n).getD (mark n)) =
        front ++ v ++ back ++ w := by
      rw [substitute, atOnce, String.toList_ofList, hnames, String.ofList_inj, List.foldl_cons,
        List.foldl_cons, List.foldl_nil, fill_eq ha, fill_eq hn, hv, hw, replaceAll_eq ha, hfilled,
        hfilled, hv, hw, single_self] at heq
      exact heq
    by_cases hna : n = a
    · -- In the second turn of one variable, what the first one put there is replaced too.
      subst hna
      obtain rfl : w = v := by simpa [hw] using hv
      rw [single_self, Option.getD_some] at hturns
      rcases (replaceAll_eq_self_iff hn).mp hturns with h | h
      · exact hne h
      · exact h (hwhole.trans (List.prefix_append _ w).isInfix)
    · rw [single_of_ne hna, Option.getD_none, ← List.append_nil (_ ++ mark n), replaceAll_eq hn,
        filled_append_mark hn, single_self, Option.getD_some, filled_nil, List.append_nil,
        ← replaceAll_eq hn] at hturns
      rcases (replaceAll_eq_self_iff hn).mp (List.append_cancel_right hturns) with h | h
      · exact hne h
      · exact h hwhole

/-- Among some variables, filling in one after the other comes to filling in all at once, in every
text that has placeholders of these variables only, exactly if no value of them completes a
placeholder of one of them. -/
theorem substitute_eq_atOnce_iff (env : Environment) (V : List Char → Prop) :
    (∀ s : String, (∀ n ∈ names s.toList, V n) → substitute env s = atOnce env s) ↔
      Independent env V := by
  constructor
  · intro h a n hVa hVn ha hn v w hv hw hne hcompletes
    obtain ⟨s, hnames, hs⟩ := exists_substitute_ne ha hn hv hw hne hcompletes
    refine hs (h s ?_)
    simp [hnames, hVa, hVn]
  · intro h s hs
    exact substitute_eq_atOnce h hs

/-- A value that is a placeholder: it is filled in too if its own turn is still to come, and stays
as it is if that is past. -/
theorem substitute_brought_in :
    let env : Environment := fun name =>
      if name = "A" then some "$\x7bB\x7d" else if name = "B" then some "x" else none
    (substitute env "$\x7bA\x7d$\x7bB\x7d" = "xx" ∧
      atOnce env "$\x7bA\x7d$\x7bB\x7d" = "$\x7bB\x7dx") ∧
    substitute env "$\x7bB\x7d$\x7bA\x7d" = "x$\x7bB\x7d" := by
  decide +kernel

end SchemaInterfaces.Placeholders
