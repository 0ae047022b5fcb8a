import SchemaInterfaces.Proofs.Ranges
import SchemaInterfaces.Proofs.ReturnTypes

/-! Which annotations say something. The brackets of a subscript are found by its first one and the
end of the text alone, so that texts pass for a subscript that are none. -/
namespace SchemaInterfaces.Text

/-- How many more brackets a text opens than it closes. -/
def depth (s : List Char) : Int := s.count '[' - s.count ']'

/-- No bracket is closed before it is opened, and all are closed. -/
structure Balanced (s : List Char) : Prop where
  opened : ∀ front, front <+: s → 0 ≤ depth front
  closed : depth s = 0

/-- A bracket with all up to the one that closes it. -/
structure IsSubscript (s : List Char) : Prop where
  opens : s.head? = some '['
  closes : ∀ front, front <+: s → front ≠ [] → (depth front = 0 ↔ front = s)

variable {s t u v inner : List Char}

/-- A text has one first bracket. -/
theorem eq_of_first_bracket (hs : '[' ∉ s) (ht : '[' ∉ t) (h : s ++ '[' :: u = t ++ '[' :: v) :
    s = t ∧ u = v := by
  have hcut := congrArg (cut (· == '[')) h
  rw [cut_append _ (beq_eq_false_of_notMem hs) rfl, cut_append _ (beq_eq_false_of_notMem ht) rfl]
    at hcut
  simpa using hcut

@[simp]
theorem depth_append (s t : List Char) : depth (s ++ t) = depth s + depth t := by
  simp only [depth, List.count_append]
  omega

@[simp]
theorem depth_open (s : List Char) : depth ('[' :: s) = depth s + 1 := by
  simp [depth]
  omega

@[simp]
theorem depth_close : depth [']'] = -1 := rfl

theorem neg_one_le_depth_singleton (c : Char) : -1 ≤ depth [c] := by
  have hcount : [c].count ']' ≤ 1 := List.count_le_length
  unfold depth
  omega

/-- Behind its first bracket the depth falls by one at a time, so that it is never negative if it
is never the one at which the bracket is closed. -/
theorem IsSubscript.balanced (h : IsSubscript ('[' :: inner ++ [']'])) : Balanced inner := by
  have hwhole : depth ('[' :: inner ++ [']']) = 0 :=
    (h.closes _ List.prefix_rfl (by simp)).mpr rfl
  rw [depth_append, depth_open, depth_close] at hwhole
  refine ⟨?_, by omega⟩
  intro front hfront
  induction front using List.reverseRecOn with
  | nil => exact Int.le_refl 0
  | append_singleton front c ih =>
    have hopen := ih ((List.prefix_append front [c]).trans hfront)
    have hstep := neg_one_le_depth_singleton c
    have hinside : '[' :: (front ++ [c]) <+: '[' :: inner ++ [']'] :=
      List.cons_prefix_cons.mpr ⟨rfl, hfront.trans (List.prefix_append inner [']'])⟩
    have hne : '[' :: (front ++ [c]) ≠ '[' :: inner ++ [']'] := by
      intro heq
      have hlong := congrArg List.length heq
      have hshort := hfront.length_le
      simp at hlong hshort
      omega
    have hdepth := (h.closes _ hinside (by simp)).not.mpr hne
    rw [depth_open, depth_append] at hdepth
    rw [depth_append]
    omega

theorem Balanced.isSubscript (h : Balanced inner) : IsSubscript ('[' :: inner ++ [']']) := by
  refine ⟨rfl, ?_⟩
  intro front hfront hne
  obtain ⟨c, rest, rfl⟩ := List.exists_cons_of_ne_nil hne
  obtain ⟨rfl, hrest⟩ := List.cons_prefix_cons.mp hfront
  rcases List.prefix_concat_iff.mp hrest with rfl | hrest
  · simp [h.closed]
  · have hopen := h.opened rest hrest
    have hlong := hrest.length_le
    constructor
    · intro hdepth
      rw [depth_open] at hdepth
      omega
    · intro heq
      have := congrArg List.length heq
      simp at this
      omega

theorem isSubscript_iff_balanced : IsSubscript ('[' :: inner ++ [']']) ↔ Balanced inner :=
  ⟨IsSubscript.balanced, Balanced.isSubscript⟩

end SchemaInterfaces.Text

namespace SchemaInterfaces.TypeScript
open Text

/-- An annotation without blanks and then quotes around it. -/
def bare (written : String) : List Char := stripQuotes (trimChars written.toList)

/-- Names joined by points, of which `last` is the last. -/
def EndsIn (s : List Char) (last : String) : Prop :=
  ∃ qualifiers : List String, (∀ n ∈ qualifiers ++ [last], IsName n) ∧
    s = (".".intercalate (qualifiers ++ [last])).toList

/-- A bare annotation that says something: a name from the table or one that stands for itself, or a
name from the table, maybe with blanks around it, and brackets with any text between them. -/
inductive Says (s : List Char) : String → Prop where
  | known {last t : String} (name : EndsIn s last) (type : annotated.lookup last = some (.type t)) :
      Says s t
  | itself {t : String} (name : EndsIn s t) (free : t ∉ reservedNames) : Says s t
  | subscripted {base inner : List Char} {last t : String} (name : EndsIn (trimChars base) last)
      (type : annotated.lookup last = some (.type t)) (text : s = base ++ '[' :: inner ++ [']']) :
      Says s t

/-- A name and one subscript. -/
def Generic (s : List Char) : Prop :=
  ∃ name subscript, isDottedName name = true ∧ IsSubscript subscript ∧ s = name ++ subscript

variable {written last t : String} {s base inner rest : List Char} {subscripted : Bool}

theorem endsIn_iff : EndsIn s last ↔ isDottedName s = true ∧ String.ofList (lastName s) = last := by
  constructor
  · rintro ⟨qualifiers, hnames, rfl⟩
    refine ⟨isDottedName_iff.mpr ⟨_, by simp, hnames, rfl⟩, ?_⟩
    rw [lastName_intercalate hnames, String.ofList_toList]
  · rintro ⟨hdotted, rfl⟩
    obtain ⟨names, hne, hnames, rfl⟩ := isDottedName_iff.mp hdotted
    obtain ⟨qualifiers, last, rfl⟩ := (List.eq_nil_or_concat' names).resolve_left hne
    rw [lastName_intercalate hnames, String.ofList_toList]
    exact ⟨qualifiers, hnames, rfl⟩

theorem bracket_notMem_of_endsIn (h : EndsIn s last) : '[' ∉ s :=
  bracket_notMem_of_isDottedName (endsIn_iff.mp h).1

theorem bracket_notMem_of_trimmed (h : EndsIn (trimChars base) last) : '[' ∉ base := by
  intro hbracket
  exact bracket_notMem_of_endsIn h (mem_trimChars_of_mem hbracket (by decide))

/-- The first bracket ends the base, and the text has to end with a bracket. -/
theorem annotationBase?_of_bracket (h : '[' ∉ base) : annotationBase? (base ++ '[' :: rest) =
    if rest.getLast? = some ']' then some (trimChars base, true) else none := by
  have hbase : ∀ c ∈ base, (c != '[') = true := by
    intro c hc
    simpa using ne_of_mem_of_not_mem hc h
  have hdrop : (base ++ '[' :: rest).dropWhile (· != '[') = '[' :: rest := by
    rw [List.dropWhile_append_of_pos hbase]
    rfl
  have htake : (base ++ '[' :: rest).takeWhile (· != '[') = base := by
    rw [List.takeWhile_append_of_pos hbase]
    simp
  rw [annotationBase?, hdrop]
  simp only [htake]

theorem annotationBase?_eq_false_iff : annotationBase? s = some (base, false) ↔
    '[' ∉ s ∧ base = s := by
  constructor
  · intro h
    refine ⟨?_, eq_of_annotationBase? h⟩
    intro hs
    obtain ⟨front, rest, rfl, hfront⟩ := List.eq_append_cons_of_mem hs
    rw [annotationBase?_of_bracket hfront] at h
    split at h <;> simp at h
  · rintro ⟨hs, rfl⟩
    exact annotationBase?_of_notMem hs

theorem annotationBase?_eq_true_iff : annotationBase? s = some (base, true) ↔
    ∃ front inner, '[' ∉ front ∧ s = front ++ '[' :: inner ++ [']'] ∧ base = trimChars front := by
  constructor
  · intro h
    by_cases hs : '[' ∈ s
    · obtain ⟨front, rest, rfl, hfront⟩ := List.eq_append_cons_of_mem hs
      rw [annotationBase?_of_bracket hfront] at h
      split at h
      · rename_i hend
        obtain ⟨inner, rfl⟩ := List.getLast?_eq_some_iff.mp hend
        exact ⟨front, inner, hfront, by simp, by simpa using h.symm⟩
      · simp at h
    · simp [annotationBase?_of_notMem hs] at h
  · rintro ⟨front, inner, hfront, rfl, rfl⟩
    rw [List.append_assoc, List.cons_append, annotationBase?_of_bracket hfront]
    simp

theorem annotationType?_eq_some_iff :
    annotationType? written = some t ↔ Says (bare written) t := by
  rw [annotationType?_eq_some_iff_base, ← bare]
  constructor
  · rintro ⟨base, subscripted, hbase, hdotted, h⟩
    have hends := endsIn_iff.mpr ⟨hdotted, rfl⟩
    cases subscripted with
    | false =>
      obtain ⟨-, rfl⟩ := annotationBase?_eq_false_iff.mp hbase
      rcases h with h | ⟨-, hlast, hfree⟩
      · exact .known hends h
      · exact .itself (hlast ▸ hends) hfree
    | true =>
      obtain ⟨front, inner, -, hs, rfl⟩ := annotationBase?_eq_true_iff.mp hbase
      have htype := h.resolve_right (by simp)
      exact .subscripted hends htype hs
  · intro h
    cases h with
    | known name type =>
      have hbase := annotationBase?_of_notMem (bracket_notMem_of_endsIn name)
      obtain ⟨hdotted, rfl⟩ := endsIn_iff.mp name
      exact ⟨_, false, hbase, hdotted, .inl type⟩
    | itself name free =>
      have hbase := annotationBase?_of_notMem (bracket_notMem_of_endsIn name)
      obtain ⟨hdotted, hlast⟩ := endsIn_iff.mp name
      exact ⟨_, false, hbase, hdotted, .inr ⟨rfl, hlast, free⟩⟩
    | @subscripted base inner last _ name type text =>
      have hbase := annotationBase?_eq_true_iff.mpr
        ⟨base, inner, bracket_notMem_of_trimmed name, text, rfl⟩
      obtain ⟨hdotted, rfl⟩ := endsIn_iff.mp name
      exact ⟨trimChars base, true, hbase, hdotted, .inl type⟩

/-- A text whose first bracket is behind `base` and that ends with a bracket is a name and one
subscript only if `base` is the name and the brackets between the two balance. -/
theorem generic_iff (h : '[' ∉ base) : Generic (base ++ '[' :: inner ++ [']']) ↔
    isDottedName base = true ∧ Balanced inner := by
  constructor
  · rintro ⟨name, subscript, hname, hsubscript, htext⟩
    obtain ⟨rest, rfl⟩ := List.head?_eq_some_iff.mp hsubscript.opens
    rw [List.append_assoc, List.cons_append] at htext
    obtain ⟨rfl, rfl⟩ := eq_of_first_bracket h (bracket_notMem_of_isDottedName hname) htext
    exact ⟨hname, isSubscript_iff_balanced.mp hsubscript⟩
  · rintro ⟨hname, hinner⟩
    exact ⟨base, '[' :: inner ++ [']'], hname, isSubscript_iff_balanced.mpr hinner, by simp⟩

theorem not_isDottedName_of_bracket : isDottedName (base ++ '[' :: inner ++ [']']) = false := by
  rw [Bool.eq_false_iff]
  intro h
  exact bracket_notMem_of_isDottedName h (by simp)

theorem trimChars_of_isDottedName (h : isDottedName s = true) : trimChars s = s := by
  refine trimChars_of_none ?_
  intro c hc
  by_cases hpoint : c = '.'
  · subst hpoint
    decide
  · have hsep : (c == '.') = false := beq_eq_false_iff_ne.mpr hpoint
    obtain ⟨part, hpart, hc⟩ : ∃ part ∈ splitBy (· == '.') s, c ∈ part := mem_splitBy hc hsep
    refine isBlank_of_isWordChar ((isDottedName_eq_true_iff.mp h part hpart).word c ?_)
    rwa [String.toList_ofList]

/-- An annotation that says something is a name, or a name and one subscript, unless there are
blanks around its name or the brackets behind the name and before the end do not balance. -/
theorem form_iff (h : Says s t) : (isDottedName s = true ∨ Generic s) ↔
    ∀ base inner, '[' ∉ base → s = base ++ '[' :: inner ++ [']'] →
      trimChars base = base ∧ Balanced inner := by
  have hname : ∀ {last}, EndsIn s last → ((isDottedName s = true ∨ Generic s) ↔
      ∀ base inner, '[' ∉ base → s = base ++ '[' :: inner ++ [']'] →
        trimChars base = base ∧ Balanced inner) := by
    intro last hends
    have hdotted := (endsIn_iff.mp hends).1
    refine iff_of_true (.inl hdotted) ?_
    rintro base inner - rfl
    rw [not_isDottedName_of_bracket] at hdotted
    contradiction
  cases h with
  | known name _ => exact hname name
  | itself name _ => exact hname name
  | @subscripted base inner last _ name type text =>
    subst text
    have htrimmed := (endsIn_iff.mp name).1
    have hbase := bracket_notMem_of_trimmed name
    rw [not_isDottedName_of_bracket, generic_iff hbase]
    constructor
    · rintro (h | ⟨hdotted, hinner⟩) front rest hfront htext
      · simp at h
      · rw [List.append_assoc, List.append_assoc] at htext
        obtain ⟨rfl, hrest⟩ := eq_of_first_bracket hbase hfront htext
        obtain rfl := List.append_cancel_right hrest
        exact ⟨trimChars_of_isDottedName hdotted, hinner⟩
    · intro h
      obtain ⟨hself, hinner⟩ := h base inner hbase rfl
      exact .inr ⟨hself ▸ htrimmed, hinner⟩

/-- The annotations that say something, and those among them that are neither a name nor a name and
one subscript: a name from the table, blanks, and brackets with any text between the first one and
the end, where there are blanks or the brackets between the two do not balance. -/
theorem annotationType?_says (written : String) :
    (∀ t, annotationType? written = some t ↔ Says (bare written) t) ∧
    (annotationType? written ≠ none →
      ((isDottedName (bare written) = true ∨ Generic (bare written)) ↔
        ∀ base inner, '[' ∉ base → bare written = base ++ '[' :: inner ++ [']'] →
          trimChars base = base ∧ Balanced inner)) := by
  refine ⟨fun t => annotationType?_eq_some_iff, ?_⟩
  intro h
  obtain ⟨t, ht⟩ := Option.ne_none_iff_exists'.mp h
  exact form_iff (annotationType?_eq_some_iff.mp ht)

/-- A union of two lists passes for a list: the bracket at the end closes the second one. -/
theorem annotationType?_union :
    annotationType? "list[int] | list[str]" = some "any[]" ∧
      ¬ (isDottedName (bare "list[int] | list[str]") = true ∨
        Generic (bare "list[int] | list[str]")) := by
  refine ⟨by decide +kernel, ?_⟩
  have htext : bare "list[int] | list[str]" =
      "list".toList ++ '[' :: "int] | list[str".toList ++ [']'] := by decide +kernel
  rw [htext, not_isDottedName_of_bracket, generic_iff (by decide)]
  rintro (h | ⟨-, hinner⟩)
  · simp at h
  · have hopened := hinner.opened "int]".toList (by decide)
    revert hopened
    decide

end SchemaInterfaces.TypeScript
