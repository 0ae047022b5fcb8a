import SchemaInterfaces.Proofs.AtOnce
import SchemaInterfaces.Proofs.QuotedText
import SchemaInterfaces.Settings.Render

/-! The placeholders of written settings: those of the strings in them, in order. Nothing that is
written around a string begins one, and nothing in a string is written so that one is lost. -/
namespace SchemaInterfaces.Settings
open Toml Toml.Scan Placeholders

/-- The strings of the settings, in the order in which they are written. -/
def strings (s : Settings) : List String :=
  s.project.name :: s.exported.schemaDir :: s.exported.outDir :: s.exported.exclude ++
    [s.logging.level]

/-- Text with these placeholders, which none goes on behind, and with no carriage return. -/
structure Carries (s : List Char) (ns : List (List Char)) : Prop where
  names_append : ∀ rest, names (s ++ rest) = ns ++ names rest
  no_return : '\r' ∉ s

variable {s u body : List Char} {ns more : List (List Char)} {c : Char} {run : Nat} {q : Quote}
  {isTripled : Bool}

theorem Carries.append (h : Carries s ns) (h' : Carries u more) :
    Carries (s ++ u) (ns ++ more) where
  names_append rest := by rw [List.append_assoc, h.names_append, h'.names_append, List.append_assoc]
  no_return := by simp [h.no_return, h'.no_return]

theorem Carries.names_eq (h : Carries s ns) : names s = ns := by
  simpa [names] using h.names_append []

theorem carries_nil : Carries [] [] := ⟨fun _ => rfl, by simp⟩

theorem carries_plain (h : '$' ∉ s) (hreturn : '\r' ∉ s) : Carries s [] :=
  ⟨names_append_of_notMem h, hreturn⟩

theorem carries_flatMap {α : Type} {f : α → List Char} {g : α → List (List Char)}
    (h : ∀ x, Carries (f x) (g x)) (xs : List α) : Carries (xs.flatMap f) (xs.flatMap g) := by
  induction xs with
  | nil => exact carries_nil
  | cons x xs ih => simpa using (h x).append ih

/-! Strings. -/

theorem escapeChar_eq_self (hcontrol : isControl c = false) (hback : c ≠ '\\') (hline : c ≠ '\n')
    (htab : c ≠ '\t') : escapeChar isTripled c = [c] := by
  have hne : ∀ d, isControl d = true → c ≠ d := by
    rintro d hd rfl
    simp [hd] at hcontrol
  simp [escapeChar, hcontrol, hback, hline, htab, hne '\x08' (by decide), hne '\x0c' (by decide),
    hne '\r' (by decide)]

/-- What has an escape is no part of a placeholder. -/
theorem isBreak_of_escaped (h : escapeChar isTripled c ≠ [c]) : IsBreak c ∧ c ≠ '$' := by
  have hall : ∀ n < 128, isControl (Char.ofNat n) = true →
      isNamePart (Char.ofNat n) = false ∧ Char.ofNat n ≠ '\x7b' ∧ Char.ofNat n ≠ '\x7d' ∧
        Char.ofNat n ≠ '$' := by
    decide +kernel
  by_cases hc : isControl c = true
  · obtain ⟨hname, hopen, hclose, hdollar⟩ :
        isNamePart c = false ∧ c ≠ '\x7b' ∧ c ≠ '\x7d' ∧ c ≠ '$' := Scan.forall_control hall hc
    exact ⟨⟨hname, hopen, hclose⟩, hdollar⟩
  · by_contra hbreak
    refine h (escapeChar_eq_self (by simpa using hc) ?_ ?_ ?_)
    all_goals
      rintro rfl
      exact hbreak ⟨⟨by decide, by decide⟩, by decide⟩

theorem names_append_break (hc : IsBreak c) (s u : List Char) :
    names (s ++ c :: u) = names s ++ names (c :: u) := by
  rw [names_eq, names_eq, names_eq, pieces_append_break hc, List.filterMap_append]

/-- What stands outside all placeholders separates those before it from those behind. -/
theorem names_append_plain (hc : IsBreak c) (hdollar : c ≠ '$') (hs : '$' ∉ s)
    (front rest : List Char) : names (front ++ (c :: s ++ rest)) = names front ++ names rest := by
  have hplain : '$' ∉ c :: s := by simp [hs, hdollar.symm]
  rw [List.cons_append, names_append_break hc, ← List.cons_append, names_append_of_notMem hplain]

theorem isBreak_quote : IsBreak '"' := ⟨by decide, by decide⟩

/-- Escapes neither make placeholders nor break them. -/
theorem names_escapeFrom (isTripled : Bool) (run : Nat) (front s : List Char) :
    names (front ++ escapeFrom isTripled run s) = names (front ++ s) := by
  induction s generalizing front run with
  | nil => rfl
  | cons c s ih =>
    -- A character that is written as it is belongs to what stands before the rest.
    have hself : ∀ run, names (front ++ ([c] ++ escapeFrom isTripled run s)) =
        names (front ++ c :: s) := by
      intro run
      simpa using ih run (front ++ [c])
    have hescape : ∀ more, '$' ∉ more → IsBreak c ∧ c ≠ '$' →
        names (front ++ ('\\' :: more ++ escapeFrom isTripled 0 s)) = names (front ++ c :: s) := by
      intro more hmore hc
      have hrest := ih 0 []
      have hback : IsBreak '\\' := ⟨by decide, by decide⟩
      rw [List.nil_append, List.nil_append] at hrest
      rw [names_append_plain hback (by decide) hmore, hrest]
      exact (names_append_plain (s := []) hc.1 hc.2 (by simp) front s).symm
    rw [escapeFrom]
    split
    · rcases escapeChar_self_or_escape isTripled c with ⟨h, -⟩ | ⟨more, h, hdollar, -⟩
      · rw [h]
        exact hself 0
      · by_cases hc : escapeChar isTripled c = [c]
        · rw [hc]
          exact hself 0
        · rw [h]
          exact hescape more hdollar (isBreak_of_escaped hc)
    · rename_i hc
      obtain rfl := Decidable.not_not.mp hc
      split
      · exact hself (run + 1)
      · exact hescape ['"'] (by decide) ⟨isBreak_quote, by decide⟩

theorem return_notMem_escapeFrom (isTripled : Bool) (run : Nat) (s : List Char) :
    '\r' ∉ escapeFrom isTripled run s := by
  induction s generalizing run with
  | nil => simp [escapeFrom]
  | cons c s ih =>
    rw [escapeFrom]
    split
    · rcases escapeChar_self_or_escape isTripled c with ⟨h, hc⟩ | ⟨more, h, -, hreturn⟩
      · simp [h, hc.symm, ih]
      · simp [h, hreturn, ih]
    · split <;> simp [ih]

/-- Quotes separate a text from what is around it. -/
theorem carries_enclose (hreturn : '\r' ∉ body) :
    Carries (enclose q isTripled body) (names body) := by
  have hmark : IsBreak q.mark ∧ q.mark ≠ '$' ∧ q.mark ≠ '\r' := by
    cases q with
    | basic => exact ⟨isBreak_quote, by decide⟩
    | literal => exact ⟨⟨by decide, by decide⟩, by decide⟩
  have hmarks : ∀ n, '$' ∉ List.replicate n q.mark ∧ '\r' ∉ List.replicate n q.mark := by
    intro n
    exact ⟨fun h => hmark.2.1 (List.eq_of_mem_replicate h).symm,
      fun h => hmark.2.2 (List.eq_of_mem_replicate h).symm⟩
  have hbody : ∀ n, Carries (body ++ q.mark :: List.replicate n q.mark) (names body) := by
    intro n
    refine ⟨fun rest => ?_, by simp [hreturn, hmark.2.2.symm]⟩
    rw [List.append_assoc]
    exact names_append_plain hmark.1 hmark.2.1 (hmarks n).1 body rest
  have hmarks := fun n => carries_plain (hmarks n).1 (hmarks n).2
  have hline : Carries (if body.contains '\n' then ['\n'] else []) [] := by
    split <;> exact carries_plain (by decide) (by decide)
  unfold enclose
  split
  · simpa [List.replicate_succ] using ((hmarks 3).append hline).append (hbody 2)
  · simpa using (hmarks 1).append (hbody 0)

theorem carries_string (x : String) : Carries (stringText x) (names x.toList) := by
  have hescaped : ∀ isTripled, Carries (enclose .basic isTripled (escapeFrom isTripled 0 x.toList))
      (names x.toList) := by
    intro isTripled
    have hnames := names_escapeFrom isTripled 0 [] x.toList
    rw [List.nil_append, List.nil_append] at hnames
    rw [← hnames]
    exact carries_enclose (return_notMem_escapeFrom isTripled 0 x.toList)
  have hliteral : (∀ c ∈ x.toList, isControl c = false) → '\r' ∉ x.toList := fun h hc =>
    absurd (h '\r' hc) (by decide)
  unfold stringText quoted
  cases hform : Form.of x.toList with
  | escaped isTripled => cases isTripled <;> exact hescaped _
  | single q =>
    cases q with
    | basic => exact hescaped false
    | literal => exact carries_enclose (hliteral (of_single_literal hform).1)
  | tripled q =>
    cases q with
    | basic => exact hescaped true
    | literal => exact carries_enclose (hliteral (of_tripled_literal hform).1)

theorem carries_list (xs : List String) :
    Carries (listText xs) (xs.flatMap fun x => names x.toList) := by
  match xs with
  | [] => exact carries_plain (by decide) (by decide)
  | [x] =>
    have hone := ((carries_plain (s := ['[']) (by decide) (by decide)).append
      (carries_string x)).append (carries_plain (s := [']']) (by decide) (by decide))
    simpa [listText] using hone
  | x :: y :: xs =>
    have hitem : ∀ x : String,
        Carries ("    ".toList ++ stringText x ++ [',', '\n']) (names x.toList) := by
      intro x
      have hitem := ((carries_plain (s := "    ".toList) (by decide) (by decide)).append
        (carries_string x)).append (carries_plain (s := [',', '\n']) (by decide) (by decide))
      simpa using hitem
    have hitems := ((carries_plain (s := ['[', '\n']) (by decide) (by decide)).append
      (carries_flatMap hitem (x :: y :: xs))).append
        (carries_plain (s := [']']) (by decide) (by decide))
    simpa [listText] using hitems

theorem carries_boolean (b : Bool) : Carries (booleanText b) [] := by
  cases b <;> exact carries_plain (by decide) (by decide)

theorem carries_heading (name : String) (h : '$' ∉ name.toList) (hreturn : '\r' ∉ name.toList) :
    Carries (heading name) [] :=
  carries_plain (by simp [heading, h]) (by simp [heading, hreturn])

theorem carries_line (key : String) (hkey : '$' ∉ key.toList)
    (hreturn : '\r' ∉ key.toList) {value : List Char} (h : Carries value ns) :
    Carries (line key value) ns := by
  have hfront : Carries (key.toList ++ " = ".toList) [] :=
    carries_plain (by simp [hkey]) (by simp [hreturn])
  simpa [line] using (hfront.append h).append (carries_plain (s := ['\n']) (by decide) (by decide))

/-- The placeholders of written settings are those of their strings. -/
theorem carries_render (s : Settings) :
    Carries (render s).toList (s.strings.flatMap fun x => names x.toList) := by
  have hnewline : Carries ['\n'] [] := carries_plain (by decide) (by decide)
  have hsource : names s.exported.source.name.toList = [] := by
    cases s.exported.source <;> decide
  have hproject : Carries s.project.lines (names s.project.name.toList) :=
    (carries_heading "project" (by decide) (by decide)).append
      (carries_line "name" (by decide) (by decide) (carries_string s.project.name))
  have hexported : Carries s.exported.lines (names s.exported.schemaDir.toList ++
      names s.exported.outDir.toList ++ s.exported.exclude.flatMap fun x => names x.toList) := by
    have hfrom := carries_line "schema_dir" (by decide) (by decide)
      (carries_string s.exported.schemaDir)
    have hto := carries_line "outdir" (by decide) (by decide) (carries_string s.exported.outDir)
    have hkind := carries_line "source" (by decide) (by decide)
      (carries_string s.exported.source.name)
    have hexclude := carries_line "exclude" (by decide) (by decide)
      (carries_list s.exported.exclude)
    have hlogs := carries_line "logs" (by decide) (by decide) (carries_boolean s.exported.logs)
    have hlines := (((((carries_heading "export" (by decide) (by decide)).append
      hfrom).append hto).append hkind).append hexclude).append hlogs
    simpa [Export.lines, hsource] using hlines
  have hlogging : Carries s.logging.lines (names s.logging.level.toList) := by
    have hlines := ((carries_heading "logging" (by decide) (by decide)).append
      (carries_line "level" (by decide) (by decide) (carries_string s.logging.level))).append
      (carries_line "json_format" (by decide) (by decide) (carries_boolean s.logging.jsonFormat))
    simpa [Logging.lines] using hlines
  have hall := (((hproject.append hnewline).append hexported).append hnewline).append hlogging
  simpa [render, strings] using hall

end SchemaInterfaces.Settings
