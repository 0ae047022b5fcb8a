import SchemaInterfaces.Proofs.AtOnce
import SchemaInterfaces.Proofs.OneText
import SchemaInterfaces.Proofs.Records
import SchemaInterfaces.Proofs.Tables
import SchemaInterfaces.Proofs.VerbatimText
import SchemaInterfaces.Proofs.WholeLines
import SchemaInterfaces.Settings.Load

/-! A setting whose string is the placeholder of a variable. The value of the variable is put
between the quotes before the text is read as TOML, and reaches the setting as it is only if it
stands for itself there. -/
namespace SchemaInterfaces

namespace Toml
open Reading Scan

section Records
variable {α β ε : Type} {a b : List Char} {path : List String} {name : String} {x y : Node}
  {s : Shape Node α} {g : α → α}

theorem foldlM_map {f : α → β → Except ε α} {ms : List β}
    (h : ∀ m ∈ ms, ∀ x, f (g x) m = (f x m).map g) (x : α) :
    ms.foldlM f (g x) = (ms.foldlM f x).map g := by
  induction ms generalizing x with
  | nil => rfl
  | cons m ms ih =>
    rw [List.forall_mem_cons] at h
    rw [List.foldlM_cons, List.foldlM_cons, h.1]
    cases f x m with
    | error e => rfl
    | ok y => exact ih h.2 y

/-- A slot that has nothing to do with a change lets it be made before or after. -/
theorem store_optional_map {slot : String} {read : Node → Except Problem β} {put : β → α → α}
    (hput : ∀ b z, put b (g z) = g (put b z)) (v : Node) (z : α) :
    (Slot.optional slot read put).store v (g z) =
      ((Slot.optional slot read put).store v z).map g := by
  change (do let b ← read v; pure (put b (g z))) = (do let b ← read v; pure (put b z)).map g
  cases read v with
  | error e => rfl
  | ok b => exact congrArg Except.ok (hput b z)

/-- Two tables that differ in one text are read as records that differ in what it is stored as. -/
theorem Decoder.record_differ (name : String)
    (hself : ∀ {x y}, Node.Differ a b path x y →
      ∀ z, member s z (name, x) = (member s z (name, y)).map g)
    (hother : ∀ slot ∈ s.slots, slot.name ≠ name →
      ∀ v z, slot.store v (g z) = (slot.store v z).map g)
    (h : Node.Differ a b (name :: path) x y) : record s x = (record s y).map g := by
  have hmember : ∀ m : String × Node, m.1 ≠ name →
      ∀ z, member s (g z) m = (member s z m).map g := by
    intro m hm z
    unfold member
    cases hslot : s.slot? m.1 with
    | none => rfl
    | some slot =>
      have hname : slot.name = m.1 := by simpa using List.find?_some hslot
      exact hother slot (List.mem_of_find?_eq_some hslot) (hname ▸ hm) m.2 z
  cases h with
  | @table _ origin front back _ x y unique inner =>
    have hback : ∀ m ∈ back, m.1 ≠ name := by
      intro m hm heq
      exact unique (List.mem_map.mpr ⟨m, List.mem_append_right _ hm, heq⟩)
    change (front ++ (name, x) :: back).foldlM (member s) s.blank =
      ((front ++ (name, y) :: back).foldlM (member s) s.blank).map g
    rw [List.foldlM_append, List.foldlM_append]
    cases front.foldlM (member s) s.blank with
    | error e => rfl
    | ok z =>
      change ((name, x) :: back).foldlM (member s) z =
        (((name, y) :: back).foldlM (member s) z).map g
      rw [List.foldlM_cons, List.foldlM_cons, hself inner]
      cases member s z (name, y) with
      | error e => rfl
      | ok z => exact foldlM_map (fun m hm => hmember m (hback m hm)) z

end Records

section Documents
variable {a b : List Char} {table key : String} {d : Document} {earlier settings : List Statement}

/-- A text put into the last table under a key makes documents that differ in it, or none. -/
theorem Document.add_text_differ (h : d.InTable table) (key : String) (a b : List Char) :
    Option.Rel (Document.Differ a b [table, key]) (d.add (.setting ⟨[], key⟩ (.text a)))
      (d.add (.setting ⟨[], key⟩ (.text b))) := by
  obtain ⟨root, here⟩ := d
  obtain ⟨hhere, origin, front, members, hroot, hname⟩ := h
  obtain rfl : here = [table] := hhere
  obtain rfl : root = _ := hroot
  rw [add_setting hname, add_setting hname]
  by_cases hkey : key ∈ members.map Prod.fst
  · have hthere : ∀ v, Table.set ⟨[], key⟩ v ⟨.header, members⟩ = none := by
      intro v
      have hsome : (members.lookup key).isSome := by
        rw [Option.isSome_iff_ne_none]
        exact fun hnone => Keyed.lookup_eq_none_iff.mp hnone hkey
      simp [Table.set, Table.within, Table.add, Table.get?, hsome]
    rw [hthere, hthere]
    exact .none
  · rw [set_new hkey, set_new hkey]
    refine .some ⟨rfl, ?_⟩
    have hunique : table ∉ (front ++ []).map Prod.fst := by simpa using hname
    have hnew : key ∉ (members ++ []).map Prod.fst := by simpa using hkey
    exact .table hunique (.table hnew .text)

/-- Statements that end in the settings of a table, and one more with a text. -/
def textStatements (earlier settings : List Statement) (table key : String) (x : List Char) :
    List Statement :=
  earlier ++ .table ⟨[], table⟩ :: settings ++ [.setting ⟨[], key⟩ (.text x)]

/-- Only the text itself tells apart documents in which one setting has different texts. -/
theorem Document.foldlM_text_differ (hsettings : ∀ st ∈ settings, ∃ k v, st = .setting k v)
    (earlier later : List Statement) (table key : String) (a b : List Char) :
    Option.Rel (Document.Differ a b [table, key])
      ((textStatements earlier settings table key a ++ later).foldlM add empty)
      ((textStatements earlier settings table key b ++ later).foldlM add empty) := by
  simp only [textStatements, List.append_assoc, List.cons_append, List.nil_append,
    List.foldlM_append, List.foldlM_cons, Option.bind_eq_bind]
  cases earlier.foldlM add empty with
  | none => exact .none
  | some d =>
    simp only [Option.bind_some]
    cases hopen : d.add (.table ⟨[], table⟩) with
    | none => exact .none
    | some e =>
      simp only [Option.bind_some]
      cases hall : settings.foldlM add e with
      | none => exact .none
      | some f =>
        have htable := inTable_of_settings hsettings (inTable_of_table hopen) hall
        simp only [Option.bind_some]
        exact rel_bind (add_text_differ htable key a b) fun _ _ hrel => foldlM_differ hrel later

end Documents

section Lines
variable {s rest lines gap v behind : List Char} {table key : String} {c : Char} {g : Growth}

/-- Whole lines of which the last header is the one of this table. -/
def EndsInTable (table : String) (lines : List Char) : Prop :=
  ∃ front earlier settings, lines = front ++ ['\n'] ∧
    statements? (String.ofList lines) = some (earlier ++ .table ⟨[], table⟩ :: settings) ∧
    ∀ st ∈ settings, ∃ k v, st = .setting k v

/-- Spaces and tabs. -/
def IsGap (gap : List Char) : Prop := ∀ c ∈ gap, c = ' ' ∨ c = '\t'

/-- Whole lines, and a line of that table up to the value of this key. -/
def Awaits (table key : String) (s : List Char) : Prop :=
  ∃ lines indent gap margin, s = lines ++ (indent ++ key.toList ++ gap ++ '=' :: margin) ∧
    EndsInTable table lines ∧ IsGap indent ∧ IsGap gap ∧ IsGap margin

theorem scans_gap (h : IsGap gap) :
    Scans between gap (List.replicate gap.length .blank) between := by
  induction gap with
  | nil => exact scans_nil
  | cons c gap ih =>
    have hgap := List.forall_mem_cons.mp h
    have hstep : between.step c = (between, [.blank]) := by
      rcases hgap.1 with rfl | rfl <;> rfl
    exact (scans_step hstep).append (ih hgap.2)

theorem yields_gap (h : g.step .blank = some (g, [])) (n : Nat) :
    Growth.Yields g (List.replicate n .blank) [] g := by
  induction n with
  | zero => exact Growth.yields_nil
  | succ n ih => exact .cons h ih

/-- A line up to the value of its key. -/
theorem scans_key {indent margin : List Char} (hkey : IsBareKey key.toList) (hindent : IsGap indent)
    (hgap : IsGap gap) (hmargin : IsGap margin) :
    ∃ ts, Scans between (indent ++ key.toList ++ gap ++ '=' :: margin) ts between ∧
      Growth.Yields .line ts [] (.value [.setting ⟨[], key⟩]) := by
  refine ⟨List.replicate indent.length .blank ++ (.word key.toList ::
    (List.replicate gap.length .blank ++ (.equals :: List.replicate margin.length .blank))), ?_, ?_⟩
  · intro rest
    have hgaps := scans_gap hgap ('=' :: (margin ++ rest))
    have hword : read between (key.toList ++ (gap ++ '=' :: (margin ++ rest))) =
        .word key.toList :: read between (gap ++ '=' :: (margin ++ rest)) := by
      cases gap with
      | nil => exact read_bareKey hkey (by decide)
      | cons c gap =>
        refine read_bareKey hkey ?_
        rcases hgap c (List.mem_cons_self ..) with rfl | rfl <;> decide
    have hequals : read between ('=' :: (margin ++ rest)) =
        .equals :: read between (margin ++ rest) := rfl
    simp only [List.append_assoc, List.cons_append]
    rw [scans_gap hindent, hword, hgaps, hequals, scans_gap hmargin]
  · have hname := yields_bareKey hkey
    rw [String.ofList_toList] at hname
    exact (yields_gap rfl indent.length).append ((hname.append (yields_gap rfl gap.length)).append
      ((yields_equals key).append (yields_gap rfl margin.length)))

/-- What is read up to the value of a key, and what is read from there. -/
theorem statements?_awaits (h : Awaits table key s) (hkey : IsBareKey key.toList) :
    ∃ earlier settings, (∀ st ∈ settings, ∃ k v, st = .setting k v) ∧
      ∀ rest, rest.head? ≠ some '\n' → statements? (String.ofList (s ++ rest)) =
        (Growth.run (.value [.setting ⟨[], key⟩]) (read between (unifyLineEnds rest))).map
          (earlier ++ .table ⟨[], table⟩ :: settings ++ ·) := by
  obtain ⟨lines, indent, gap, margin, rfl, hlines, hindent, hgap, hmargin⟩ := h
  obtain ⟨front, earlier, settings, rfl, hstatements, hsettings⟩ := hlines
  refine ⟨earlier, settings, hsettings, fun rest hrest => ?_⟩
  obtain ⟨ts, hscans, hyields⟩ := says_of_statements? hstatements
  obtain ⟨us, hscans', hyields'⟩ := scans_key hkey hindent hgap hmargin
  have hplain : ∀ c ∈ indent ++ key.toList ++ gap ++ '=' :: margin, c ≠ '\n' ∧ c ≠ '\r' := by
    have hgaps : ∀ gap, IsGap gap → ∀ c ∈ gap, c ≠ '\n' ∧ c ≠ '\r' := by
      intro gap hgap c hc
      rcases hgap c hc with rfl | rfl <;> decide
    have hbare : ∀ c ∈ key.toList, c ≠ '\n' ∧ c ≠ '\r' := by
      intro c hc
      constructor <;> rintro rfl <;> exact absurd (hkey.bare _ hc) (by decide)
    simp only [List.forall_mem_append, List.forall_mem_cons]
    exact ⟨⟨⟨hgaps indent hindent, hbare⟩, hgaps gap hgap⟩, by decide, hgaps margin hmargin⟩
  generalize indent ++ key.toList ++ gap ++ '=' :: margin = line at hscans' hplain ⊢
  have hline : prepared (front ++ ['\n'] ++ line ++ rest) =
      prepared (front ++ ['\n']) ++ (line ++ unifyLineEnds rest) := by
    have hhead : (line ++ rest).head? ≠ some '\n' := by
      cases line with
      | nil => exact hrest
      | cons c line => simpa using (hplain c (List.mem_cons_self ..)).1
    rw [List.append_assoc, prepared_append (by simp) hhead, unifyLineEnds_append (.inr hrest),
      unifyLineEnds_of_notMem fun hreturn => (hplain _ hreturn).2 rfl]
  rw [statements?_eq, hline, hscans, hscans', ← List.append_assoc, hyields.append hyields']
  simp

theorem length_unifyLineEnds_le (s : List Char) : (unifyLineEnds s).length ≤ s.length := by
  fun_induction unifyLineEnds s with
  | case1 rest ih => simp only [List.length_cons]; omega
  | case2 c rest hc ih => simp only [List.length_cons]; omega
  | case3 => exact Nat.le_refl _

theorem head?_unifyLineEnds (h : (unifyLineEnds s).head? = some '"') : s.head? = some '"' := by
  fun_cases unifyLineEnds s with
  | case1 rest => simp [unifyLineEnds] at h
  | case2 c rest hc => rwa [unifyLineEnds.eq_2 c rest hc] at h
  | case3 => exact h

theorem verbatim_of_unifyLineEnds (h : Verbatim (unifyLineEnds s)) : Verbatim s := by
  fun_induction unifyLineEnds s with
  | case1 rest ih => exact absurd (h '\n' (List.mem_cons_self ..)).plain (by decide)
  | case2 c rest hc ih =>
    have hall := List.forall_mem_cons.mp h
    exact List.forall_mem_cons.mpr ⟨hall.1, ih hall.2⟩
  | case3 => exact h

/-- What stands for itself is the value between its quotes, whatever comes behind them. -/
theorem run_value_verbatim (key : String) (hbehind : behind.head? ≠ some '"') (hv : Verbatim v) :
    Growth.run (.value [.setting ⟨[], key⟩])
        (read between (unifyLineEnds ('"' :: v ++ '"' :: behind))) =
      (Growth.run .ended (read between (unifyLineEnds behind))).map
        (.setting ⟨[], key⟩ (.text v) :: ·) := by
  have hreturn : '\r' ∉ '"' :: v := by
    intro hmem
    rcases List.mem_cons.mp hmem with hquote | hmem
    · exact absurd hquote (by decide)
    · exact absurd (hv _ hmem).plain (by decide)
  have htext : unifyLineEnds ('"' :: v ++ '"' :: behind) =
      '"' :: (v ++ '"' :: unifyLineEnds behind) := by
    rw [unifyLineEnds_append (.inr (by simp)), unifyLineEnds_of_notMem hreturn,
      unifyLineEnds_cons (by decide)]
    rfl
  have hread : read between ('"' :: (v ++ '"' :: unifyLineEnds behind)) =
      .text v false :: read between (unifyLineEnds behind) :=
    read_opening_of_holds hv fun hhead => hbehind (head?_unifyLineEnds hhead)
  rw [htext, hread]
  exact Growth.yields_text ⟨[], key⟩ v false _

/-- A value that ends the text is read as some text, which is the one between the quotes only if
that stands for itself. -/
theorem verbatim_of_run_value {sts : List Statement}
    (h : Growth.run (.value [.setting ⟨[], key⟩])
      (read between (unifyLineEnds ('"' :: v ++ ['"']))) = some sts) :
    ∃ content later, sts = .setting ⟨[], key⟩ (.text content) :: later ∧
      (content = v → Verbatim v) := by
  have htext : unifyLineEnds ('"' :: v ++ ['"']) = '"' :: (unifyLineEnds v ++ ['"']) := by
    rw [unifyLineEnds_append (.inr (by simp)), unifyLineEnds_cons (by decide)]
    rfl
  have hread : read between ('"' :: (unifyLineEnds v ++ ['"'])) =
      read (opening .basic) (unifyLineEnds v ++ ['"']) := rfl
  rw [htext, hread] at h
  have hjunk : .junk ∉ read (opening .basic) (unifyLineEnds v ++ ['"']) := by
    intro hjunk
    rw [Growth.run_of_junk hjunk] at h
    contradiction
  obtain ⟨content, isTripled, more, hmore, hverbatim⟩ := verbatim_of_opening hjunk
  rw [hmore] at h
  obtain ⟨later, -, rfl⟩ := Option.map_eq_some_iff.mp
    ((Growth.yields_text ⟨[], key⟩ content isTripled more).symm.trans h)
  refine ⟨content, later, rfl, ?_⟩
  rintro rfl
  exact verbatim_of_unifyLineEnds (hverbatim (length_unifyLineEnds_le content))

/-- The value of a key between double quotes, as it is or not. -/
theorem statements?_quoted (h : Awaits table key s) (hkey : IsBareKey key.toList) :
    ∃ earlier settings, (∀ st ∈ settings, ∃ k v, st = .setting k v) ∧
      (∀ behind w, behind.head? ≠ some '"' → Verbatim w →
        statements? (String.ofList (s ++ ('"' :: w ++ '"' :: behind))) =
          (Growth.run .ended (read between (unifyLineEnds behind))).map
            (textStatements earlier settings table key w ++ ·)) ∧
      ∀ v sts, statements? (String.ofList (s ++ ('"' :: v ++ ['"']))) = some sts →
        ∃ content later, sts = textStatements earlier settings table key content ++ later ∧
          (content = v → Verbatim v) := by
  obtain ⟨earlier, settings, hsettings, hrest⟩ := statements?_awaits h hkey
  refine ⟨earlier, settings, hsettings, ?_, ?_⟩
  · intro behind w hbehind hw
    rw [hrest _ (by simp), run_value_verbatim key hbehind hw, Option.map_map]
    congr 1
    funext later
    simp [textStatements]
  · intro v sts hv
    rw [hrest _ (by simp), Option.map_eq_some_iff] at hv
    obtain ⟨rest, hrun, rfl⟩ := hv
    obtain ⟨content, later, rfl, hcontent⟩ := verbatim_of_run_value hrun
    exact ⟨content, later, by simp [textStatements], hcontent⟩

end Lines

end Toml

namespace Settings
open Toml Toml.Scan Reading Placeholders

variable {env : Environment} {name v w before behind a b s u : List Char} {x y : Node}

/-- The same settings with another folder to write to. -/
def withOutDir (v : List Char) (s : Settings) : Settings :=
  { s with exported := { s.exported with outDir := String.ofList v } }

theorem record_outDir_export (h : Node.Differ a b ["outdir"] x y) :
    Decoder.record Export.shape x =
      (Decoder.record Export.shape y).map fun e => { e with outDir := String.ofList a } := by
  refine Decoder.record_differ "outdir" ?_ ?_ h
  · intro x y hinner z
    cases hinner
    rfl
  · intro slot hslot hne
    simp only [Export.shape, List.mem_cons, List.not_mem_nil, or_false] at hslot
    rcases hslot with rfl | rfl | rfl | rfl | rfl
    · exact store_optional_map fun _ _ => rfl
    · exact (hne rfl).elim
    · exact store_optional_map fun _ _ => rfl
    · exact store_optional_map fun _ _ => rfl
    · exact store_optional_map fun _ _ => rfl

theorem record_outDir (h : Node.Differ a b ["export", "outdir"] x y) :
    Decoder.record shape x = (Decoder.record shape y).map (withOutDir a) := by
  refine Decoder.record_differ "export" ?_ ?_ h
  · intro x y hinner z
    change (do let e ← Decoder.record Export.shape x; pure { z with exported := e }) =
      (do let e ← Decoder.record Export.shape y; pure { z with exported := e }).map _
    rw [record_outDir_export hinner]
    cases Decoder.record Export.shape y <;> rfl
  · intro slot hslot hne
    simp only [shape, List.mem_cons, List.not_mem_nil, or_false] at hslot
    rcases hslot with rfl | rfl | rfl
    · exact store_optional_map fun _ _ => rfl
    · exact (hne rfl).elim
    · exact store_optional_map fun _ _ => rfl

/-- Two texts whose statements differ in the folder to write to are read as settings that differ in
it, or are refused for the same reason. -/
theorem ofText_outDir_differ {earlier settings : List Statement} (later : Option (List Statement))
    (hsettings : ∀ st ∈ settings, ∃ k v, st = .setting k v)
    (hs : statements? (String.ofList s) =
      later.map (textStatements earlier settings "export" "outdir" a ++ ·))
    (hu : statements? (String.ofList u) =
      later.map (textStatements earlier settings "export" "outdir" b ++ ·)) :
    (Decoder.record shape).ofText (String.ofList s) =
      ((Decoder.record shape).ofText (String.ofList u)).map (withOutDir a) := by
  unfold Decoder.ofText Document.ofText?
  rw [hs, hu]
  cases later with
  | none => rfl
  | some later =>
    have hrel := Document.foldlM_text_differ hsettings earlier later "export" "outdir" a b
    simp only [Option.map_some, Option.bind_eq_bind, Option.bind_some]
    generalize List.foldlM Document.add Document.empty
      (textStatements earlier settings "export" "outdir" a ++ later) = x at hrel ⊢
    generalize List.foldlM Document.add Document.empty
      (textStatements earlier settings "export" "outdir" b ++ later) = y at hrel ⊢
    cases hrel with
    | none => rfl
    | some hrel => exact record_outDir hrel.root

/-- A text with another between double quotes in it. -/
def quotedIn (before w behind : List Char) : String :=
  String.ofList (before ++ ('"' :: w ++ '"' :: behind))

theorem filled_append_quote (value : List Char → Option (List Char)) (a b : List Char) :
    filled value (a ++ '"' :: b) = filled value a ++ '"' :: filled value b := by
  have hquote : filled value ('"' :: b) = '"' :: filled value b :=
    filled_cons (first?_of_ne_dollar (by decide) b)
  have hbreak : IsBreak '"' := ⟨by decide, by decide⟩
  rw [← hquote, filled, pieces_append_break hbreak, List.flatMap_append]
  rfl

/-- A placeholder between quotes is filled in with what stands around it as it is. -/
theorem atOnce_quotedIn (hname : IsVariable name) (hv : values env name = some v)
    (before behind : List Char) : atOnce env (quotedIn before (mark name) behind) =
      quotedIn (filled (values env) before) v (filled (values env) behind) := by
  rw [atOnce, quotedIn, String.toList_ofList, quotedIn, List.cons_append, filled_append_quote,
    filled_mark_append hname, hv, Option.getD_some]
  have hbehind := filled_append_quote (values env) [] behind
  rw [List.nil_append, filled_nil, List.nil_append] at hbehind
  rw [hbehind]
  rfl

/-- Where the export table has the placeholder of a variable between double quotes as its `outdir`,
and the placeholders of the file can be filled in at once, the value of the variable reaches the
setting as it is if all its characters stand for themselves between double quotes: the file is read
like one with any other such text in that place, or refused for the same reason. If the file ends
with that line, no other value reaches the setting as it is. -/
theorem ofText_quotedIn (hname : IsVariable name) (hv : values env name = some v)
    (hbefore : Awaits "export" "outdir" (filled (values env) before)) :
    (∀ behind w, (filled (values env) behind).head? ≠ some '"' →
      substitute env (quotedIn before (mark name) behind) =
        atOnce env (quotedIn before (mark name) behind) →
      Verbatim v → Verbatim w →
        ofText env (quotedIn before (mark name) behind) =
          ((Decoder.record shape).ofText
            (quotedIn (filled (values env) before) w (filled (values env) behind))).map
              (withOutDir v)) ∧
    (substitute env (quotedIn before (mark name) []) =
        atOnce env (quotedIn before (mark name) []) →
      ∀ s, ofText env (quotedIn before (mark name) []) = .ok s →
        s.exported.outDir = String.ofList v → Verbatim v) := by
  obtain ⟨earlier, settings, hsettings, hverbatim, hread⟩ :=
    statements?_quoted hbefore (by decide)
  refine ⟨fun behind w hbehind honce hv' hw => ?_, fun honce s hs hout => ?_⟩
  · rw [ofText, honce, atOnce_quotedIn hname hv]
    exact ofText_outDir_differ _ hsettings (hverbatim _ v hbehind hv') (hverbatim _ w hbehind hw)
  · rw [ofText, honce, atOnce_quotedIn hname hv, filled_nil] at hs
    have hstatements :
        ∃ sts, statements? (quotedIn (filled (values env) before) v []) = some sts := by
      refine Option.ne_none_iff_exists'.mp fun hnone => ?_
      rw [Decoder.ofText, Document.ofText?, hnone] at hs
      contradiction
    obtain ⟨sts, hsts⟩ := hstatements
    obtain ⟨content, later, rfl, hcontent⟩ := hread v sts hsts
    have hself := ofText_outDir_differ (some later) hsettings hsts hsts
    change (Decoder.record shape).ofText (quotedIn _ v []) =
      ((Decoder.record shape).ofText (quotedIn _ v [])).map _ at hself
    rw [hs] at hself
    have hsame : s = withOutDir content s := Except.ok.inj hself
    refine hcontent (String.ofList_inj.mp ?_)
    rw [← hout, hsame]
    rfl

/-- A path without backslashes reaches the setting. -/
theorem ofText_generated :
    let env : Environment := fun k => if k = "V" then some "/tmp/generated" else none
    ofText env "[export]\noutdir = \"$\x7bV\x7d\"\n" =
      .ok { exported := { outDir := "/tmp/generated" } } := by
  intro env
  have hbefore : Awaits "export" "outdir" (filled (values env) "[export]\noutdir = ".toList) := by
    have hfilled : filled (values env) "[export]\noutdir = ".toList =
        "[export]\noutdir = ".toList := by
      decide +kernel
    have hheading := statements?_of_says (says_heading "export".toList (by decide))
      (by decide) (by decide)
    rw [hfilled]
    exact ⟨"[export]\n".toList, [], [' '], [' '], rfl, ⟨"[export]".toList, [], [], rfl, hheading,
      by simp⟩, by simp [IsGap], by simp [IsGap], by simp [IsGap]⟩
  have hname : IsVariable ['V'] := by
    refine ⟨⟨'V', rfl, by decide⟩, fun c hc => ?_⟩
    obtain rfl := List.mem_singleton.mp hc
    decide
  have hread := (ofText_quotedIn hname (v := "/tmp/generated".toList) (by decide +kernel)
    hbefore).1 ['\n'] [] (by decide +kernel) (by decide +kernel) (by decide) (by decide)
  have hother : (Decoder.record shape).ofText (quotedIn
      (filled (values env) "[export]\noutdir = ".toList) [] (filled (values env) ['\n'])) =
        .ok { exported := { outDir := "" } } := by
    decide +kernel
  rw [hother] at hread
  exact hread

/-- A backslash is taken for the beginning of an escape. -/
theorem ofText_backslash :
    let env : Environment := fun k => if k = "V" then some "C:\\temp" else none
    ofText env "[export]\noutdir = \"$\x7bV\x7d\"\n" =
        .ok { exported := { outDir := "C:\temp" } } ∧
      ofText env "[export]\noutdir = \"$\x7bV\x7d\"\n" ≠
        .ok { exported := { outDir := "C:\\temp" } } := by
  decide +kernel

end Settings

end SchemaInterfaces
