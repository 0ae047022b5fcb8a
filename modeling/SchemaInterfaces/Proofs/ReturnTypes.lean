import SchemaInterfaces.Proofs.Enums
import SchemaInterfaces.Proofs.RoundTrip
import SchemaInterfaces.TypeScript.ReturnType

/-! What a method is said to return: one of a few types of the language, or the name that its
annotation ends with. -/
namespace SchemaInterfaces.TypeScript
open Schema Text

/-- The types that are said of values whatever their names. -/
def plainTypes : List String :=
  ["number", "string", "boolean", "any[]", "\x7b [key: string]: any \x7d"]

/-- The names that do not stand for themselves in an annotation. -/
def reservedNames : List String :=
  ["int", "str", "bool", "float", "list", "List", "tuple", "Tuple", "set", "Set", "Sequence",
   "Iterable", "dict", "Dict", "Mapping", "None", "NoneType", "Any", "object", "Optional", "Union"]

/-- One name: characters of names, of which the first is no number. -/
structure IsName (s : String) : Prop where
  start : ∃ c, s.toList.head? = some c ∧ isWordStart c = true
  word : WordText s

/-- An annotation, without blanks and then quotes around it, is made of names joined by points, and
the last of them is `t`, which stands for itself. -/
structure EndsInName (written t : String) : Prop where
  dotted : ∃ qualifiers : List String, (∀ q ∈ qualifiers, IsName q) ∧
    stripQuotes (trimChars written.toList) = (".".intercalate (qualifiers ++ [t])).toList
  name : IsName t
  free : t ∉ reservedNames

variable {written source name t : String} {names : List String} {s : List Char} {m : Method}

theorem isName_iff {part : List Char} : IsName (String.ofList part) ↔
    ((part.head?.map isWordStart).getD false && part.all isWordChar) = true := by
  rw [Bool.and_eq_true, List.all_eq_true]
  constructor
  · rintro ⟨⟨c, hc, hstart⟩, hword⟩
    rw [String.toList_ofList] at hc
    refine ⟨by simp [hc, hstart], ?_⟩
    simpa [WordText] using hword
  · rintro ⟨hstart, hword⟩
    refine ⟨?_, by simpa [WordText] using hword⟩
    cases hc : part.head? with
    | none => simp [hc] at hstart
    | some c => exact ⟨c, by simpa using hc, by simpa [hc] using hstart⟩

theorem isDottedName_eq_true_iff : isDottedName s = true ↔
    ∀ part ∈ splitBy (· == '.') s, IsName (String.ofList part) := by
  simp only [isDottedName, List.all_eq_true, isName_iff]

theorem splitBy_intercalate (hne : names ≠ []) (h : ∀ n ∈ names, IsName n) :
    splitBy (· == '.') (".".intercalate names).toList = names.map String.toList := by
  have hpoint : ∀ part ∈ names.map String.toList, '.' ∉ part := by
    simpa using fun n hn => (h n hn).word.notMem (by decide)
  rw [splitBy_eq_splitOnP, String.toList_intercalate]
  exact List.splitOn_intercalate '.' hpoint (by simpa using hne)

/-- Names joined by points are what the text is made of between its points. -/
theorem isDottedName_iff : isDottedName s = true ↔
    ∃ names : List String, names ≠ [] ∧ (∀ n ∈ names, IsName n) ∧
      s = (".".intercalate names).toList := by
  constructor
  · intro h
    refine ⟨(splitBy (· == '.') s).map String.ofList, ?_, ?_, ?_⟩
    · simpa using splitBy_ne_nil _ s
    · simpa using isDottedName_eq_true_iff.mp h
    · have hparts : ((splitBy (· == '.') s).map String.ofList).map String.toList =
          splitBy (· == '.') s := by
        simp [Function.comp_def]
      rw [String.toList_intercalate, hparts, splitBy_eq_splitOnP]
      exact (List.intercalate_splitOn '.').symm
  · rintro ⟨names, hne, hnames, rfl⟩
    rw [isDottedName_eq_true_iff, splitBy_intercalate hne hnames]
    simpa using hnames

theorem lastName_intercalate (h : ∀ n ∈ names ++ [name], IsName n) :
    lastName (".".intercalate (names ++ [name])).toList = name.toList := by
  rw [lastName, splitBy_intercalate (by simp) h]
  simp

/-- A name joined to others by points is no place for a subscript. -/
theorem bracket_notMem_of_isDottedName (h : isDottedName s = true) : '[' ∉ s := by
  intro hc
  obtain ⟨part, hpart, hc⟩ : ∃ part ∈ splitBy (· == '.') s, '[' ∈ part :=
    mem_splitBy hc (by decide)
  have hbracket : '[' ∉ (String.ofList part).toList :=
    (isDottedName_eq_true_iff.mp h part hpart).word.notMem (by decide)
  exact hbracket (by simpa using hc)

theorem annotationBase?_of_notMem (h : '[' ∉ s) : annotationBase? s = some (s, false) := by
  have hall : s.dropWhile (· != '[') = [] := by
    rw [List.dropWhile_eq_nil_iff]
    intro c hc
    simpa using ne_of_mem_of_not_mem hc h
  rw [annotationBase?, hall]

/-- The base of an annotation without a subscript is all of it. -/
theorem eq_of_annotationBase? {base : List Char} (h : annotationBase? s = some (base, false)) :
    base = s := by
  unfold annotationBase? at h
  split at h
  · simpa using h.symm
  · split at h <;> simp at h

/-- The table of names gives no type but the plain ones. -/
theorem mem_plainTypes_of_lookup (h : annotated.lookup name = some (.type t)) :
    t ∈ plainTypes := by
  have hall : ∀ entry ∈ annotated, ∀ t, entry.2 = .type t → t ∈ plainTypes := by
    simp [annotated, plainTypes, anyArrayType, mappingType]
  obtain ⟨before, after, hentry, -⟩ := List.lookup_eq_some_iff.mp h
  exact hall (name, .type t) (by simp [hentry]) t rfl

theorem lookup_annotated_eq_none_iff : annotated.lookup name = none ↔ name ∉ reservedNames := by
  have hnames : annotated.map (·.1) = reservedNames := rfl
  rw [← hnames, List.lookup_eq_none_iff]
  constructor
  · intro h hmem
    obtain ⟨entry, hentry, rfl⟩ := List.mem_map.mp hmem
    simpa using h entry hentry
  · intro h entry hentry
    simpa using (ne_of_mem_of_not_mem (List.mem_map_of_mem hentry) h).symm

/-- What is said once the base of an annotation is found: its last name decides. -/
theorem annotationType?_eq_some_iff_base : annotationType? written = some t ↔
    ∃ base subscripted, annotationBase? (stripQuotes (trimChars written.toList)) =
        some (base, subscripted) ∧ isDottedName base = true ∧
      (annotated.lookup (String.ofList (lastName base)) = some (.type t) ∨
        subscripted = false ∧ String.ofList (lastName base) = t ∧ t ∉ reservedNames) := by
  constructor
  · intro h
    obtain ⟨⟨base, subscripted⟩, hbase, h⟩ := Option.bind_eq_some_iff.mp h
    dsimp only at h
    split at h
    · rename_i hdotted
      refine ⟨base, subscripted, hbase, hdotted, ?_⟩
      cases hmeaning : annotated.lookup (String.ofList (lastName base)) with
      | some meaning =>
        cases meaning with
        | type u => exact .inl (by simpa [hmeaning] using h)
        | vague => simp [hmeaning] at h
      | none =>
        obtain ⟨hnot, hlast⟩ : subscripted = false ∧ String.ofList (lastName base) = t := by
          simpa [hmeaning] using h
        exact .inr ⟨hnot, hlast, hlast ▸ lookup_annotated_eq_none_iff.mp hmeaning⟩
    · simp at h
  · rintro ⟨base, subscripted, hbase, hdotted, h⟩
    simp only [annotationType?, hbase, Option.bind_eq_bind, Option.bind_some, hdotted, if_true]
    rcases h with h | ⟨rfl, rfl, hfree⟩
    · simp only [h]
    · simp [lookup_annotated_eq_none_iff.mpr hfree]

theorem type_of_annotationType? (h : annotationType? written = some t) :
    t ∈ plainTypes ∨ EndsInName written t := by
  obtain ⟨base, subscripted, hbase, hdotted, h⟩ := annotationType?_eq_some_iff_base.mp h
  rcases h with htype | ⟨rfl, hlast, hfree⟩
  · exact .inl (mem_plainTypes_of_lookup htype)
  · obtain ⟨names, hne, hnames, hs⟩ := isDottedName_iff.mp hdotted
    obtain ⟨qualifiers, last, rfl⟩ := (List.eq_nil_or_concat' names).resolve_left hne
    rw [hs, lastName_intercalate hnames, String.ofList_toList] at hlast
    subst hlast
    rw [eq_of_annotationBase? hbase] at hs
    rw [List.forall_mem_append] at hnames
    exact .inr ⟨⟨qualifiers, hnames.1, hs⟩, by simpa using hnames.2, hfree⟩

theorem annotationType?_of_endsInName (h : EndsInName written t) :
    annotationType? written = some t := by
  obtain ⟨qualifiers, hqualifiers, hs⟩ := h.dotted
  have hnames : ∀ n ∈ qualifiers ++ [t], IsName n :=
    List.forall_mem_append.mpr ⟨hqualifiers, by simpa using h.name⟩
  have hdotted := isDottedName_iff.mpr ⟨qualifiers ++ [t], by simp, hnames, hs⟩
  have hbase := annotationBase?_of_notMem (bracket_notMem_of_isDottedName hdotted)
  refine annotationType?_eq_some_iff_base.mpr ⟨_, false, hbase, hdotted, .inr ⟨rfl, ?_, h.free⟩⟩
  rw [hs, lastName_intercalate hnames, String.ofList_toList]

theorem sourceType?_mem (h : sourceType? source = some t) : t ∈ plainTypes := by
  obtain ⟨expression, -, h⟩ := Option.bind_eq_some_iff.mp h
  unfold expressionType? at h
  split_ifs at h <;> cases h <;> simp [plainTypes, mappingType, anyArrayType]

theorem annotation?_eq_some_iff : m.annotation? = some written ↔
    ∃ raw, m.returnAnnotation = some raw ∧ Text.trim raw ≠ "" ∧ written = Text.trim raw := by
  simp only [Method.annotation?, Option.filter_eq_some_iff, Option.map_eq_some_iff,
    decide_eq_true_eq]
  constructor
  · rintro ⟨⟨raw, hraw, rfl⟩, hne⟩
    exact ⟨raw, hraw, hne, rfl⟩
  · rintro ⟨raw, hraw, hne, rfl⟩
    exact ⟨⟨raw, hraw, rfl⟩, hne⟩

theorem endsInName_trim : EndsInName (Text.trim written) t ↔ EndsInName written t := by
  have htrim : trimChars (Text.trim written).toList = trimChars written.toList := by
    rw [Text.trim, String.toList_ofList, trimChars_trimChars]
  constructor <;> rintro ⟨hdotted, hname, hfree⟩
  · exact ⟨htrim ▸ hdotted, hname, hfree⟩
  · exact ⟨htrim.symm ▸ hdotted, hname, hfree⟩

theorem heuristic_eq {raw : String} (hraw : m.returnAnnotation = some raw)
    (hne : Text.trim raw ≠ "") : heuristic m = annotationType? (Text.trim raw) := by
  rw [heuristic, annotation?_eq_some_iff.mpr ⟨raw, hraw, hne, rfl⟩]

theorem heuristic_eq_some (h : heuristic m = some t) : t ∈ plainTypes ∨
    ∃ raw, m.returnAnnotation = some raw ∧ Text.trim raw ≠ "" ∧ EndsInName raw t := by
  cases hm : m.annotation? with
  | some written =>
    obtain ⟨raw, hraw, hne, rfl⟩ := annotation?_eq_some_iff.mp hm
    rw [heuristic_eq hraw hne] at h
    refine (type_of_annotationType? h).imp_right ?_
    intro hends
    exact ⟨raw, hraw, hne, endsInName_trim.mp hends⟩
  | none =>
    rw [heuristic, hm] at h
    obtain ⟨source, -, h⟩ := Option.bind_eq_some_iff.mp h
    exact .inl (sourceType?_mem h)

/-- What is said of a method is one of the plain types, or the name that its annotation ends with
and that is none of the reserved ones. An annotation that is not blank decides alone, whatever the
text of the method, and one that ends in such a name gives that name. -/
theorem heuristic_answers (m : Method) :
    (∀ t, heuristic m = some t → t ∈ plainTypes ∨
      ∃ raw, m.returnAnnotation = some raw ∧ Text.trim raw ≠ "" ∧ EndsInName raw t) ∧
    ∀ raw, m.returnAnnotation = some raw → Text.trim raw ≠ "" →
      (∀ source, heuristic { m with source } = heuristic m) ∧
        ∀ t, EndsInName raw t → heuristic m = some t := by
  refine ⟨fun t => heuristic_eq_some, ?_⟩
  intro raw hraw hne
  refine ⟨?_, ?_⟩
  · intro source
    rw [heuristic_eq hraw hne]
    exact heuristic_eq hraw hne
  · intro t ht
    rw [heuristic_eq hraw hne]
    exact annotationType?_of_endsInName (endsInName_trim.mpr ht)

end SchemaInterfaces.TypeScript
