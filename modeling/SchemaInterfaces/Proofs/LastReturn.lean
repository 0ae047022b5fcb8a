import Mathlib.Data.List.Forall2
import SchemaInterfaces.Proofs.Trimming
import SchemaInterfaces.TypeScript.ReturnType

/-! What the text of a method says of its type. Only the last `return` line counts, with whatever
blanks around it, and a string literal there is taken for a string unless braces or square brackets
stand in it. -/
namespace SchemaInterfaces.Text

/-- The lines of a text are its pieces between line feeds, but for an empty one at the end. -/
theorem splitBy_newline (s : List Char) :
    splitBy (· == '\n') s = lines s ∨ splitBy (· == '\n') s = lines s ++ [[]] := by
  induction s with
  | nil => exact .inr rfl
  | cons c s ih =>
    rw [splitBy, lines]
    cases hs : splitBy (· == '\n') s with
    | nil => exact (splitBy_ne_nil _ s hs).elim
    | cons first more =>
      rw [hs] at ih
      by_cases hc : c = '\n'
      · simpa [hc] using ih
      · cases hl : lines s with
        | nil => simp_all
        | cons line rest =>
          rw [hl] at ih
          simpa [hc] using ih.imp (fun h => by simp_all) (fun h => by simp_all)

theorem filterMap_lines {α : Type} {f : List Char → Option α} (hf : f [] = none) (s : List Char) :
    (lines s).filterMap f = (splitBy (· == '\n') s).filterMap f := by
  rcases splitBy_newline s with h | h <;> simp [h, hf]

/-- A carriage return before every line feed. -/
def crlf (s : List Char) : List Char := s.flatMap fun c => if c = '\n' then ['\r', '\n'] else [c]

/-- With carriage returns the lines are the same, but for the carriage returns behind them. -/
theorem forall₂_crlf (s : List Char) :
    List.Forall₂ (fun l m => l = m ∨ l = m ++ ['\r'])
      (splitBy (· == '\n') (crlf s)) (splitBy (· == '\n') s) := by
  induction s with
  | nil => exact .cons (.inl rfl) .nil
  | cons c s ih =>
    by_cases hc : c = '\n'
    · subst hc
      have hleft : splitBy (· == '\n') (crlf ('\n' :: s)) =
          ['\r'] :: splitBy (· == '\n') (crlf s) := splitBy_append _ ['\r'] rfl (crlf s)
      have hright : splitBy (· == '\n') ('\n' :: s) = [] :: splitBy (· == '\n') s :=
        splitBy_append _ [] rfl s
      rw [hleft, hright]
      exact .cons (.inr rfl) ih
    · have hcrlf : crlf (c :: s) = c :: crlf s := by simp [crlf, hc]
      rw [hcrlf, splitBy, splitBy]
      generalize splitBy (· == '\n') (crlf s) = ls at ih ⊢
      generalize splitBy (· == '\n') s = ms at ih ⊢
      cases ih with
      | nil => exact .nil
      | cons hfirst hmore =>
        have hfirst := hfirst.imp (congrArg (c :: ·)) (congrArg (c :: ·))
        have hsep : (c == '\n') = false := beq_eq_false_iff_ne.mpr hc
        simp only [hsep, Bool.false_eq_true, if_false]
        exact .cons hfirst hmore

end SchemaInterfaces.Text

namespace SchemaInterfaces.TypeScript
open Text

/-- A `return` line: blanks aside, the word alone, or with a character behind it that goes on no
name. -/
def IsReturn (line : List Char) : Prop :=
  trimChars line = "return".toList ∨
    ∃ c rest, trimChars line = "return".toList ++ c :: rest ∧ isWordChar c = false

/-- What the `return` lines of a text return. -/
def returns (source : String) : List (List Char) :=
  (splitBy (· == '\n') source.toList).filterMap returned?

/-- Two texts are the same but for the blanks in front of their lines. -/
def Reindented (a b : String) : Prop :=
  List.Forall₂ (fun l m => l.dropWhile isBlank = m.dropWhile isBlank)
    (splitBy (· == '\n') a.toList) (splitBy (· == '\n') b.toList)

/-- The last `return` line of a text returns an expression. Blanks may be around the line. -/
def LastReturn (source : String) (expression : List Char) : Prop :=
  ∃ before front back after,
    splitBy (· == '\n') source.toList =
      before ++ (front ++ "return ".toList ++ expression ++ back) :: after ∧
    (∀ c ∈ front ++ back, isBlank c = true) ∧ ∀ line ∈ after, ¬ IsReturn line

/-- A string literal between the quotes `q`, maybe one with fields to fill in. -/
def stringLiteral (q : Char) (formatted : Bool) (s : List Char) : List Char :=
  (if formatted then ['f'] else []) ++ q :: s ++ [q]

variable {a b source : String} {line l m s expression : List Char} {q : Char} {formatted : Bool}

theorem returned?_of_trimChars (h : trimChars l = trimChars m) : returned? l = returned? m := by
  rw [returned?, returned?, h]

theorem returned?_return {rest : List Char} (h : trimChars line = "return".toList ++ rest) :
    returned? line =
      if (rest.head?.map isWordChar).getD false then none else some (trimChars rest) := by
  rw [returned?, h]
  rfl

theorem isSome_returned?_iff : (returned? line).isSome = true ↔ IsReturn line := by
  constructor
  · intro h
    unfold returned? at h
    split at h
    · rename_i rest hline
      cases rest with
      | nil => exact .inl hline
      | cons c rest =>
        refine .inr ⟨c, rest, hline, ?_⟩
        cases hc : isWordChar c with
        | false => rfl
        | true => simp [hc] at h
    · simp at h
  · rintro (h | ⟨c, rest, h, hc⟩)
    · have hline : trimChars line = "return".toList ++ [] := by simpa using h
      rw [returned?_return hline]
      rfl
    · rw [returned?_return h]
      simp [hc]

instance : DecidablePred IsReturn := fun _ => decidable_of_iff _ isSome_returned?_iff

/-- Some line of the text is a `return` line. -/
def HasReturn (source : String) : Prop :=
  ∃ line ∈ splitBy (· == '\n') source.toList, IsReturn line

instance : Decidable (HasReturn source) :=
  inferInstanceAs (Decidable (∃ line ∈ splitBy (· == '\n') source.toList, IsReturn line))

theorem sourceType?_eq (source : String) :
    sourceType? source = (returns source).getLast?.bind expressionType? := by
  rw [sourceType?, filterMap_lines rfl source.toList]
  rfl

theorem returns_eq_nil_iff : returns source = [] ↔ ¬ HasReturn source := by
  simp only [returns, HasReturn, List.filterMap_eq_nil_iff, ← isSome_returned?_iff]
  simp

theorem returns_append (a b : String) : returns (a ++ "\n" ++ b) = returns a ++ returns b := by
  have hsplit : splitBy (· == '\n') (a ++ "\n" ++ b).toList =
      splitBy (· == '\n') a.toList ++ splitBy (· == '\n') b.toList := by
    rw [← splitBy_append _ _ (c := '\n') rfl]
    simp
  rw [returns, hsplit, List.filterMap_append]
  rfl

/-- Lines count without the blanks around them. -/
theorem filterMap_returned? {ls ms : List (List Char)}
    (h : List.Forall₂ (fun l m => trimChars l = trimChars m) ls ms) :
    ls.filterMap returned? = ms.filterMap returned? := by
  induction h with
  | nil => rfl
  | cons hline _ ih =>
    rw [List.filterMap_cons, List.filterMap_cons, returned?_of_trimChars hline, ih]

theorem sourceType?_append (a b : String) :
    sourceType? (a ++ "\n" ++ b) = if HasReturn b then sourceType? b else sourceType? a := by
  rw [sourceType?_eq, returns_append, List.getLast?_append]
  split
  · rename_i hb
    have hne : returns b ≠ [] := by rwa [ne_eq, returns_eq_nil_iff, not_not]
    rw [sourceType?_eq, List.getLast?_eq_some_getLast hne, Option.some_or]
  · rename_i hb
    rw [sourceType?_eq, returns_eq_nil_iff.mpr hb, List.getLast?_nil, Option.none_or]

theorem sourceType?_crlf (a : String) :
    sourceType? (String.ofList (crlf a.toList)) = sourceType? a := by
  rw [sourceType?_eq, sourceType?_eq, returns, returns, String.toList_ofList]
  congr 2
  refine filterMap_returned? ?_
  refine (forall₂_crlf a.toList).imp ?_
  rintro l m (rfl | rfl)
  · rfl
  · exact trimChars_append_blanks (List.forall_mem_singleton.mpr rfl)

theorem sourceType?_reindented (h : Reindented a b) : sourceType? a = sourceType? b := by
  rw [sourceType?_eq, sourceType?_eq, returns, returns]
  congr 2
  refine filterMap_returned? (h.imp ?_)
  intro l m hline
  rw [trimChars, trimChars, hline]

/-- The last `return` line alone decides what the text of a method says of its type: of two texts
with a line feed between them the second one counts if it has such a line, and else the first.
Neither carriage returns before the line feeds nor the indentation of lines matter. -/
theorem sourceType?_last_line :
    (∀ a b : String, sourceType? (a ++ "\n" ++ b) =
      if HasReturn b then sourceType? b else sourceType? a) ∧
    (∀ a : String, sourceType? (String.ofList (crlf a.toList)) = sourceType? a) ∧
    ∀ a b : String, Reindented a b → sourceType? a = sourceType? b :=
  ⟨sourceType?_append, sourceType?_crlf, fun _ _ => sourceType?_reindented⟩

/-- What a return line has behind its word, if that neither starts nor ends with a blank. -/
theorem returned?_line {front back : List Char} {c d : Char}
    (hfront : ∀ c ∈ front, isBlank c = true) (hback : ∀ c ∈ back, isBlank c = true)
    (hc : isBlank c = false) (hd : isBlank d = false)
    (hhead : expression.head? = some c) (hlast : expression.getLast? = some d) :
    returned? (front ++ "return ".toList ++ expression ++ back) = some expression := by
  have hself : trimChars expression = expression := trimChars_eq_self hc hd hhead hlast
  have hne : expression ≠ [] := by
    rintro rfl
    simp at hhead
  have hline : trimChars (front ++ "return ".toList ++ expression ++ back) =
      "return".toList ++ ' ' :: expression := by
    rw [trimChars_append_blanks hback, List.append_assoc, trimChars_blanks_append hfront]
    refine trimChars_eq_self (c := 'r') (d := d) (by decide) hd rfl ?_
    rw [List.getLast?_append_of_ne_nil _ hne, hlast]
  rw [returned?_return hline]
  have hblank : trimChars (' ' :: expression) = expression :=
    (trimChars_blanks_append (List.forall_mem_singleton.mpr rfl)).trans hself
  simp [hblank]
  decide

theorem sourceType?_of_lastReturn {c d : Char} (h : LastReturn source expression)
    (hc : isBlank c = false) (hd : isBlank d = false) (hhead : expression.head? = some c)
    (hlast : expression.getLast? = some d) : sourceType? source = expressionType? expression := by
  obtain ⟨before, front, back, after, hlines, hblanks, hafter⟩ := h
  rw [List.forall_mem_append] at hblanks
  have hnone : after.filterMap returned? = [] := by
    rw [List.filterMap_eq_nil_iff]
    intro line hline
    simpa [← isSome_returned?_iff] using hafter line hline
  rw [sourceType?_eq, returns, hlines, List.filterMap_append, List.filterMap_cons,
    returned?_line hblanks.1 hblanks.2 hc hd hhead hlast, hnone, List.getLast?_concat]
  rfl

theorem isBlank_of_isQuote (h : isQuote q = true) : isBlank q = false := by
  obtain rfl | rfl : q = '"' ∨ q = '\'' := by simpa [isQuote] using h
  · decide
  · decide

theorem getLast?_stringLiteral : (stringLiteral q formatted s).getLast? = some q := by
  rw [stringLiteral, List.getLast?_append]
  rfl

theorem head?_stringLiteral (hq : isQuote q = true) :
    ∃ c, isBlank c = false ∧ (stringLiteral q formatted s).head? = some c := by
  cases formatted with
  | true => exact ⟨'f', by decide, rfl⟩
  | false => exact ⟨q, isBlank_of_isQuote hq, rfl⟩

theorem mem_stringLiteral {c : Char} (hf : c ≠ 'f') (hc : isQuote c = false)
    (hq : isQuote q = true) : c ∈ stringLiteral q formatted s ↔ c ∈ s := by
  have hne : c ≠ q := by
    rintro rfl
    simp [hc] at hq
  cases formatted <;> simp [stringLiteral, hf, hne]

/-- The brackets in a literal are taken for those of an expression. -/
theorem expressionType?_stringLiteral (hq : isQuote q = true) :
    expressionType? (stringLiteral q formatted s) =
      some (if '\x7b' ∈ s ∧ '\x7d' ∈ s then mappingType
        else if '[' ∈ s ∧ ']' ∈ s then anyArrayType else "string") := by
  have hopen : '\x7b' ∈ stringLiteral q formatted s ↔ '\x7b' ∈ s :=
    mem_stringLiteral (by decide) (by decide) hq
  have hclose : '\x7d' ∈ stringLiteral q formatted s ↔ '\x7d' ∈ s :=
    mem_stringLiteral (by decide) (by decide) hq
  have hleft : '[' ∈ stringLiteral q formatted s ↔ '[' ∈ s :=
    mem_stringLiteral (by decide) (by decide) hq
  have hright : ']' ∈ stringLiteral q formatted s ↔ ']' ∈ s :=
    mem_stringLiteral (by decide) (by decide) hq
  have hany : (stringLiteral q formatted s).any isQuote = true :=
    List.any_eq_true.mpr ⟨q, by simp [stringLiteral], hq⟩
  simp only [expressionType?, Bool.and_eq_true, List.contains_iff_mem, hopen, hclose, hleft, hright,
    hany, if_true]
  split_ifs <;> rfl

/-- A method whose last `return` line returns a string literal is said to return a string, unless
the literal has braces of both sorts in it, and so passes for free-form data, or square brackets of
both sorts, and so passes for a sequence. -/
theorem sourceType?_stringLiteral (hq : isQuote q = true)
    (h : LastReturn source (stringLiteral q formatted s)) :
    sourceType? source = some (if '\x7b' ∈ s ∧ '\x7d' ∈ s then mappingType
      else if '[' ∈ s ∧ ']' ∈ s then anyArrayType else "string") := by
  obtain ⟨c, hc, hhead⟩ : ∃ c, isBlank c = false ∧
      (stringLiteral q formatted s).head? = some c := head?_stringLiteral hq
  rw [sourceType?_of_lastReturn h hc (isBlank_of_isQuote hq) hhead getLast?_stringLiteral,
    expressionType?_stringLiteral hq]

/-- The last of two `return` lines, in a text whose lines end in carriage returns, with one bracket
of either sort in its literal. -/
theorem sourceType?_unclosed :
    let source := "def get_label(self, obj):\r\n    if not obj.tags:\r\n        return []\r\n" ++
      "    return f\"a \x7b of [ 's\"\r\n\r\n# returns a label"
    (isQuote '"' = true ∧ LastReturn source (stringLiteral '"' true "a \x7b of [ 's".toList)) ∧
      sourceType? source = some "string" := by
  intro source
  have hlast : LastReturn source (stringLiteral '"' true "a \x7b of [ 's".toList) :=
    ⟨["def get_label(self, obj):\r".toList, "    if not obj.tags:\r".toList,
        "        return []\r".toList], "    ".toList, ['\r'], [['\r'], "# returns a label".toList],
      by decide +kernel, List.all_eq_true.mp (by decide +kernel), by decide +kernel⟩
  exact ⟨⟨by decide, hlast⟩, sourceType?_stringLiteral (by decide) hlast⟩

/-- A field to fill in makes a string literal pass for free-form data. -/
theorem sourceType?_filled_in :
    LastReturn "return f'\x7bname\x7d'" (stringLiteral '\'' true "\x7bname\x7d".toList) ∧
      sourceType? "return f'\x7bname\x7d'" = some mappingType ∧ mappingType ≠ "string" := by
  refine ⟨⟨[], [], [], [], ?_, by simp, by simp⟩, ?_, ?_⟩
  · decide +kernel
  · decide +kernel
  · decide

end SchemaInterfaces.TypeScript
