import Mathlib.Data.List.Infix
import Mathlib.Data.List.TakeWhile
import SchemaInterfaces.Settings.Placeholders

/-! Texts as the placeholders and the other characters that they are made of. Replacing one
placeholder changes those pieces of a text, and no others. -/
namespace SchemaInterfaces.Placeholders

/-- What a placeholder may name. -/
structure IsVariable (name : List Char) : Prop where
  start : ∃ c, name.head? = some c ∧ isNameStart c = true
  part : ∀ c ∈ name, isNamePart c = true

/-- A placeholder, or a character outside all placeholders. -/
inductive Piece where
  | plain (c : Char)
  | placeholder (name : List Char)
deriving DecidableEq

def Piece.name? : Piece → Option (List Char)
  | plain _ => none
  | placeholder name => some name

/-- A piece with the value of its variable in the place of a placeholder, if it has one. -/
def Piece.filled (value : List Char → Option (List Char)) : Piece → List Char
  | plain c => [c]
  | placeholder name => (value name).getD (mark name)

/-- The pieces of a text, after passing over `skip` characters. -/
def piecesFrom (skip : Nat) : List Char → List Piece
  | [] => []
  | c :: rest =>
    match skip with
    | skip + 1 => piecesFrom skip rest
    | 0 =>
      match first? (c :: rest) with
      | some name => .placeholder name :: piecesFrom ((mark name).length - 1) rest
      | none => .plain c :: piecesFrom 0 rest

def pieces (s : List Char) : List Piece := piecesFrom 0 s

/-- A text with values in the place of its placeholders, all at once. -/
def filled (value : List Char → Option (List Char)) (s : List Char) : List Char :=
  (pieces s).flatMap (Piece.filled value)

/-- The value of one variable. -/
def single (name new : List Char) : List Char → Option (List Char) :=
  fun k => if k = name then some new else none

variable {n name new a b s u : List Char} {c : Char}
  {value other : List Char → Option (List Char)}

theorem single_self : single name new name = some new := if_pos rfl

theorem single_of_ne (h : n ≠ name) : single name new n = none := if_neg h

theorem IsVariable.notMem (h : IsVariable name) (hc : isNamePart c = false) : c ∉ name := by
  intro hmem
  simp [h.part c hmem] at hc

theorem mark_ne_nil (name : List Char) : mark name ≠ [] := by simp [mark]

/-- The dollar sign of a placeholder is its first character. -/
theorem mark_eq_cons (h : IsVariable name) : ∃ rest, mark name = '$' :: rest ∧ '$' ∉ rest := by
  refine ⟨'\x7b' :: (name ++ ['\x7d']), rfl, ?_⟩
  simp [h.notMem (c := '$') (by decide)]

theorem dollar_notMem_of_mark_eq (h : IsVariable name) (ha : a ≠ []) (hmark : mark name = a ++ u) :
    '$' ∉ u := by
  obtain ⟨rest, hdollar, hrest⟩ := mark_eq_cons h
  obtain ⟨c, a, rfl⟩ := List.exists_cons_of_ne_nil ha
  rw [hdollar, List.cons_append, List.cons.injEq] at hmark
  rw [hmark.2, List.mem_append, not_or] at hrest
  exact hrest.2

/-- The beginning of a placeholder holds none, since it has no closing brace. -/
theorem plain_of_front (h : IsVariable n) (hfront : a <+: mark n) (hne : a ≠ mark n) :
    ∀ name, IsVariable name → ¬ mark name <:+: a := by
  intro name _ hinfix
  have hclose : '\x7d' ∈ a := hinfix.subset (by simp [mark])
  have hmark : mark n = ('$' :: '\x7b' :: n) ++ ['\x7d'] := rfl
  rw [hmark] at hfront hne
  have hdropped := (List.prefix_concat_iff.mp hfront).resolve_left hne
  have hbrace := h.notMem (c := '\x7d') (by decide)
  simpa [hbrace] using hdropped.subset hclose

/-- The end of a placeholder holds none, since it has no dollar sign. -/
theorem plain_of_back (h : IsVariable n) (hback : a <:+ mark n) (hne : a ≠ mark n) :
    ∀ name, IsVariable name → ¬ mark name <:+: a := by
  intro name _ hinfix
  obtain ⟨front, hmark⟩ := hback
  have hfront : front ≠ [] := by
    rintro rfl
    exact hne hmark
  have hdollar : '$' ∈ a := hinfix.subset (by simp [mark])
  exact dollar_notMem_of_mark_eq h hfront hmark.symm hdollar

theorem first?_eq_some_iff : first? s = some name ↔ IsVariable name ∧ mark name <+: s := by
  constructor
  · intro h
    unfold first? at h
    split at h
    · rename_i rest
      dsimp only at h
      split at h
      · rename_i hname
        obtain rfl : rest.takeWhile isNamePart = name := by simpa using h
        rw [Bool.and_eq_true, Option.any_eq_true, beq_iff_eq] at hname
        obtain ⟨hstart, hend⟩ := hname
        obtain ⟨behind, hbehind⟩ := List.head?_eq_some_iff.mp hend
        have hrest := List.prefix_iff_eq_append.mp (List.takeWhile_prefix (l := rest) isNamePart)
        refine ⟨⟨hstart, fun c => List.mem_takeWhile_imp⟩, behind, ?_⟩
        rw [hbehind] at hrest
        simp [mark, hrest]
      · simp at h
    · simp at h
  · rintro ⟨h, rest, rfl⟩
    have hclose : (name ++ '\x7d' :: rest).takeWhile isNamePart = name := by
      rw [List.takeWhile_append_of_pos h.part]
      simp [show isNamePart '\x7d' = false by decide]
    have htext : mark name ++ rest = '$' :: '\x7b' :: (name ++ '\x7d' :: rest) := by simp [mark]
    obtain ⟨c, hc, hstart⟩ := h.start
    rw [htext, first?]
    simp [hclose, hc, hstart]

theorem first?_mark_append (h : IsVariable name) (s : List Char) :
    first? (mark name ++ s) = some name :=
  first?_eq_some_iff.mpr ⟨h, List.prefix_append _ s⟩

theorem first?_eq_none_iff : first? s = none ↔ ∀ name, IsVariable name → ¬ mark name <+: s := by
  constructor
  · intro h name hname hprefix
    simp [first?_eq_some_iff.mpr ⟨hname, hprefix⟩] at h
  · intro h
    by_contra hne
    obtain ⟨name, hname⟩ := Option.ne_none_iff_exists'.mp hne
    obtain ⟨hvariable, hprefix⟩ := first?_eq_some_iff.mp hname
    exact h name hvariable hprefix

theorem first?_of_ne_dollar (hc : c ≠ '$') (s : List Char) : first? (c :: s) = none := by
  refine first?_eq_none_iff.mpr ?_
  intro name _ hprefix
  exact hc (List.cons_prefix_cons.mp hprefix).1.symm

/-- Induction along the pieces of a text. -/
@[elab_as_elim]
theorem text_induction {motive : List Char → Prop} (s : List Char) (nil : motive [])
    (plain : ∀ c s, first? (c :: s) = none → motive s → motive (c :: s))
    (placeholder : ∀ name s, IsVariable name → motive s → motive (mark name ++ s)) : motive s := by
  induction hn : s.length using Nat.strong_induction_on generalizing s with
  | _ n ih =>
    cases s with
    | nil => exact nil
    | cons c s =>
      subst hn
      cases hfirst : first? (c :: s) with
      | none => exact plain c s hfirst (ih s.length (by simp) s rfl)
      | some name =>
        obtain ⟨hname, rest, hrest⟩ := first?_eq_some_iff.mp hfirst
        rw [← hrest]
        have hshort : rest.length < (c :: s).length := by
          have hpos := List.length_pos_iff.mpr (mark_ne_nil name)
          rw [← hrest, List.length_append]
          omega
        exact placeholder name rest hname (ih rest.length hshort rest rfl)

theorem piecesFrom_eq (k : Nat) (s : List Char) : piecesFrom k s = pieces (s.drop k) := by
  induction s generalizing k with
  | nil => simp [piecesFrom, pieces]
  | cons c s ih =>
    cases k with
    | zero => rfl
    | succ k => exact ih k

theorem pieces_nil : pieces [] = [] := rfl

theorem pieces_cons (h : first? (c :: s) = none) : pieces (c :: s) = .plain c :: pieces s := by
  rw [pieces, piecesFrom, h]
  rfl

theorem pieces_mark_append (h : IsVariable name) (s : List Char) :
    pieces (mark name ++ s) = .placeholder name :: pieces s := by
  have hfirst := first?_mark_append h s
  obtain ⟨rest, hmark, -⟩ := mark_eq_cons h
  rw [hmark, List.cons_append] at hfirst
  rw [hmark, List.cons_append, pieces, piecesFrom, hfirst]
  simp [piecesFrom_eq, hmark]

/-- A character that no placeholder goes on with: it stands outside all of them, or begins one. -/
structure IsBreak (c : Char) : Prop where
  no_part : isNamePart c = false
  no_brace : c ≠ '\x7b' ∧ c ≠ '\x7d'

theorem isBreak_dollar : IsBreak '$' := ⟨by decide, by decide⟩

theorem IsBreak.notMem (hc : IsBreak c) (h : IsVariable name) (hmark : mark name = '$' :: s) :
    c ∉ s := by
  have hs : '\x7b' :: (name ++ ['\x7d']) = s := (List.cons.injEq ..).mp hmark |>.2
  simp [← hs, h.notMem hc.no_part, hc.no_brace]

/-- No placeholder goes on across such a character. -/
theorem pieces_append_break (hc : IsBreak c) (a b : List Char) :
    pieces (a ++ c :: b) = pieces a ++ pieces (c :: b) := by
  induction a using text_induction with
  | nil => rfl
  | plain d a hfirst ih =>
    have hnone : first? (d :: (a ++ c :: b)) = none := by
      rw [first?_eq_none_iff] at hfirst ⊢
      intro name hname hprefix
      obtain ⟨rest, hmark, -⟩ := mark_eq_cons hname
      rcases List.prefix_or_prefix_of_prefix hprefix (List.prefix_append (d :: a) (c :: b)) with
        h | ⟨behind, h⟩
      · exact hfirst name hname h
      · rw [← h] at hprefix
        rcases behind with _ | ⟨e, behind⟩
        · exact hfirst name hname (by rw [← h, List.append_nil])
        · obtain ⟨rfl, -⟩ := List.cons_prefix_cons.mp
            ((List.prefix_append_right_inj (d :: a)).mp hprefix)
          rw [hmark, List.cons_append, List.cons.injEq] at h
          exact hc.notMem hname hmark (by simp [← h.2])
    rw [List.cons_append, pieces_cons hnone, ih, pieces_cons hfirst, List.cons_append]
  | placeholder name a hname ih =>
    rw [List.append_assoc, pieces_mark_append hname, ih, pieces_mark_append hname, List.cons_append]

theorem pieces_append_mark (h : IsVariable name) (a b : List Char) :
    pieces (a ++ mark name ++ b) = pieces a ++ .placeholder name :: pieces b := by
  obtain ⟨rest, hmark, -⟩ := mark_eq_cons h
  rw [← pieces_mark_append h b, hmark, List.append_assoc, List.cons_append,
    pieces_append_break isBreak_dollar]

theorem mem_pieces_iff : .placeholder name ∈ pieces s ↔ IsVariable name ∧ mark name <:+: s := by
  constructor
  · induction s using text_induction with
    | nil => simp [pieces_nil]
    | plain c s hfirst ih =>
      rw [pieces_cons hfirst, List.mem_cons]
      rintro (h | h)
      · simp at h
      · exact (ih h).imp_right List.infix_cons
    | placeholder k s hk ih =>
      rw [pieces_mark_append hk, List.mem_cons]
      rintro (h | h)
      · obtain rfl : name = k := by simpa using h
        exact ⟨hk, (List.prefix_append _ s).isInfix⟩
      · exact (ih h).imp_right fun h => h.trans (List.suffix_append _ s).isInfix
  · rintro ⟨h, a, b, rfl⟩
    rw [pieces_append_mark h]
    simp

/-- A text without placeholders is made of its characters. -/
theorem pieces_of_plain (h : ∀ name, IsVariable name → ¬ mark name <:+: s) :
    pieces s = s.map .plain := by
  induction s with
  | nil => rfl
  | cons c s ih =>
    have hfirst : first? (c :: s) = none :=
      first?_eq_none_iff.mpr fun name hname hprefix => h name hname hprefix.isInfix
    rw [pieces_cons hfirst, ih fun name hname hinfix => h name hname (List.infix_cons hinfix)]
    rfl

theorem names_append_of_notMem (h : '$' ∉ u) (s : List Char) : names (u ++ s) = names s := by
  induction u with
  | nil => rfl
  | cons c u ih =>
    rw [List.mem_cons, not_or] at h
    rw [List.cons_append, names, first?_of_ne_dollar (Ne.symm h.1), ih h.2]
    rfl

theorem names_cons (h : first? (c :: s) = none) : names (c :: s) = names s := by
  rw [names, h]
  rfl

theorem names_mark_append (h : IsVariable name) (s : List Char) :
    names (mark name ++ s) = name :: names s := by
  have hfirst := first?_mark_append h s
  obtain ⟨rest, hmark, hrest⟩ := mark_eq_cons h
  rw [hmark, List.cons_append] at hfirst ⊢
  rw [names, hfirst, names_append_of_notMem hrest]
  rfl

/-- The placeholders are found in the pieces. -/
theorem names_eq (s : List Char) : names s = (pieces s).filterMap Piece.name? := by
  induction s using text_induction with
  | nil => rfl
  | plain c s hfirst ih =>
    rw [names_cons hfirst, pieces_cons hfirst, ih]
    rfl
  | placeholder name s hname ih =>
    rw [names_mark_append hname, pieces_mark_append hname, ih]
    rfl

theorem mem_names_iff : name ∈ names s ↔ .placeholder name ∈ pieces s := by
  rw [names_eq, List.mem_filterMap]
  constructor
  · rintro ⟨p, hp, hname⟩
    cases p with
    | plain c => simp [Piece.name?] at hname
    | placeholder k =>
      obtain rfl : k = name := by simpa [Piece.name?] using hname
      exact hp
  · intro h
    exact ⟨_, h, rfl⟩

theorem names_append_mark (h : IsVariable name) (a b : List Char) :
    names (a ++ mark name ++ b) = names a ++ name :: names b := by
  rw [names_eq, names_eq, names_eq, pieces_append_mark h, List.filterMap_append]
  rfl

theorem names_of_plain (h : ∀ name, IsVariable name → ¬ mark name <:+: s) : names s = [] := by
  rw [List.eq_nil_iff_forall_not_mem]
  intro name hname
  obtain ⟨hvariable, hinfix⟩ := mem_pieces_iff.mp (mem_names_iff.mp hname)
  exact h name hvariable hinfix

theorem isVariable_of_mem_names (h : name ∈ names s) : IsVariable name :=
  (mem_pieces_iff.mp (mem_names_iff.mp h)).1

theorem filled_nil : filled value [] = [] := rfl

theorem filled_cons (h : first? (c :: s) = none) : filled value (c :: s) = c :: filled value s := by
  rw [filled, pieces_cons h]
  rfl

theorem filled_mark_append (h : IsVariable name) (s : List Char) :
    filled value (mark name ++ s) = (value name).getD (mark name) ++ filled value s := by
  rw [filled, pieces_mark_append h]
  rfl

theorem filled_append_mark (h : IsVariable name) (a b : List Char) :
    filled value (a ++ mark name ++ b) =
      filled value a ++ (value name).getD (mark name) ++ filled value b := by
  rw [filled, pieces_append_mark h, List.flatMap_append, List.flatMap_cons, ← List.append_assoc]
  rfl

theorem filled_of_plain (h : ∀ name, IsVariable name → ¬ mark name <:+: s) :
    filled value s = s := by
  rw [filled, pieces_of_plain h, List.flatMap_map]
  exact List.flatMap_singleton' s

theorem filled_congr (h : ∀ name ∈ names s,
    (value name).getD (mark name) = (other name).getD (mark name)) :
    filled value s = filled other s := by
  refine List.flatMap_congr ?_
  intro p hp
  cases p with
  | plain c => rfl
  | placeholder name => exact h name (mem_names_iff.mpr hp)

/-- Nothing is lost in the pieces. -/
theorem filled_none (s : List Char) : filled (fun _ => none) s = s := by
  induction s using text_induction with
  | nil => rfl
  | plain c s hfirst ih => rw [filled_cons hfirst, ih]
  | placeholder name s hname ih => rw [filled_mark_append hname, ih, Option.getD_none]

theorem replaceFrom_eq (old new : List Char) (k : Nat) (s : List Char) :
    replaceFrom old new k s = replaceAll old new (s.drop k) := by
  induction s generalizing k with
  | nil => simp [replaceFrom, replaceAll]
  | cons c s ih =>
    cases k with
    | zero => rfl
    | succ k => exact ih k

theorem replaceAll_mark_append (name new s : List Char) :
    replaceAll (mark name) new (mark name ++ s) = new ++ replaceAll (mark name) new s := by
  have hprefix : (mark name).isPrefixOf (mark name ++ s) = true := by simp
  obtain ⟨rest, hmark⟩ : ∃ rest, mark name = '$' :: rest := ⟨_, rfl⟩
  rw [replaceAll]
  conv_lhs => rw [hmark]
  rw [hmark] at hprefix
  rw [List.cons_append] at hprefix ⊢
  rw [replaceFrom, if_pos hprefix, replaceFrom_eq]
  simp [hmark]

theorem replaceAll_cons (h : ¬ mark name <+: c :: s) :
    replaceAll (mark name) new (c :: s) = c :: replaceAll (mark name) new s := by
  rw [← List.isPrefixOf_iff_prefix] at h
  rw [replaceAll, replaceFrom, if_neg h]
  rfl

theorem replaceAll_append_of_notMem (h : '$' ∉ u) (s : List Char) :
    replaceAll (mark name) new (u ++ s) = u ++ replaceAll (mark name) new s := by
  induction u with
  | nil => rfl
  | cons c u ih =>
    rw [List.mem_cons, not_or] at h
    have hne : ¬ mark name <+: c :: (u ++ s) := fun hprefix =>
      h.1 (List.cons_prefix_cons.mp hprefix).1
    rw [List.cons_append, replaceAll_cons hne, ih h.2, List.cons_append]

theorem replaceAll_other_append (hn : IsVariable n) (hname : IsVariable name) (hne : name ≠ n)
    (s : List Char) : replaceAll (mark n) new (mark name ++ s) =
      mark name ++ replaceAll (mark n) new s := by
  have hfirst := first?_mark_append hname s
  obtain ⟨rest, hmark, hrest⟩ := mark_eq_cons hname
  rw [hmark, List.cons_append] at hfirst ⊢
  have hprefix : ¬ mark n <+: '$' :: (rest ++ s) := by
    intro h
    rw [first?_eq_some_iff.mpr ⟨hn, h⟩, Option.some.injEq] at hfirst
    exact hne hfirst.symm
  rw [replaceAll_cons hprefix, replaceAll_append_of_notMem hrest, List.cons_append]

/-- To replace a placeholder from left to right is to fill it in wherever it stands. -/
theorem replaceAll_eq (hn : IsVariable n) (new s : List Char) :
    replaceAll (mark n) new s = filled (single n new) s := by
  induction s using text_induction with
  | nil => rfl
  | plain c s hfirst ih =>
    rw [replaceAll_cons (first?_eq_none_iff.mp hfirst n hn), ih, filled_cons hfirst]
  | placeholder name s hname ih =>
    rw [filled_mark_append hname]
    by_cases heq : name = n
    · subst heq
      rw [replaceAll_mark_append, ih, single_self, Option.getD_some]
    · rw [replaceAll_other_append hn hname heq, ih, single_of_ne heq, Option.getD_none]

/-- Each placeholder that is replaced makes the same difference to the length. -/
theorem length_replaceAll (hn : IsVariable n) (new s : List Char) :
    (replaceAll (mark n) new s).length + (names s).count n * (mark n).length =
      s.length + (names s).count n * new.length := by
  induction s using text_induction with
  | nil => simp [replaceAll, replaceFrom, names]
  | plain c s hfirst ih =>
    rw [replaceAll_cons (first?_eq_none_iff.mp hfirst n hn), names_cons hfirst, List.length_cons,
      List.length_cons]
    omega
  | placeholder name s hname ih =>
    rw [names_mark_append hname]
    by_cases heq : name = n
    · subst heq
      rw [replaceAll_mark_append, List.count_cons_self, List.length_append, List.length_append,
        Nat.succ_mul, Nat.succ_mul]
      omega
    · rw [replaceAll_other_append hn hname heq, List.count_cons_of_ne heq, List.length_append,
        List.length_append]
      omega

/-- A text stays the same only if there is nothing to replace, or nothing new. -/
theorem replaceAll_eq_self_iff (hn : IsVariable n) :
    replaceAll (mark n) new s = s ↔ new = mark n ∨ ¬ mark n <:+: s := by
  constructor
  · intro h
    refine or_iff_not_imp_right.mpr ?_
    rw [not_not]
    intro hinfix
    have hpos : 0 < (names s).count n :=
      List.count_pos_iff.mpr (mem_names_iff.mpr (mem_pieces_iff.mpr ⟨hn, hinfix⟩))
    have hlength : (mark n).length = new.length := by
      have htotal := length_replaceAll hn new s
      rw [h, Nat.add_left_cancel_iff] at htotal
      exact Nat.eq_of_mul_eq_mul_left hpos htotal
    -- Nothing moves, so that each placeholder is compared with what takes its place.
    obtain ⟨a, b, rfl⟩ := hinfix
    have hfront : (replaceAll (mark n) new a).length = a.length := by
      have htotal := length_replaceAll hn new a
      rw [hlength] at htotal
      omega
    rw [replaceAll_eq hn, filled_append_mark hn, ← replaceAll_eq hn, ← replaceAll_eq hn] at h
    have hback := (List.append_inj (by simpa using h) hfront).2
    simpa [single_self] using (List.append_inj hback (by simp [single_self, hlength])).1
  · intro h
    rw [replaceAll_eq hn]
    refine (filled_congr ?_).trans (filled_none s)
    intro name hname
    by_cases heq : name = n
    · subst heq
      rw [single_self, Option.getD_some, Option.getD_none]
      exact h.resolve_right (not_not.mpr (mem_pieces_iff.mp (mem_names_iff.mp hname)).2)
    · rw [single_of_ne heq]

end SchemaInterfaces.Placeholders
