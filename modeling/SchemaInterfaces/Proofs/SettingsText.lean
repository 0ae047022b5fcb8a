import SchemaInterfaces.Proofs.QuotedText
import SchemaInterfaces.Proofs.Records
import SchemaInterfaces.Proofs.Statements
import SchemaInterfaces.Proofs.Tables
import SchemaInterfaces.Proofs.WrittenPlaceholders
import SchemaInterfaces.Settings.Load

/-! Settings written as text and read again. -/
namespace SchemaInterfaces.Settings
open Toml Toml.Scan Toml.Document Reading

variable {key : String}

/-! What the values are written as. -/

/-- A list of strings as a value. -/
def listNode (ss : List String) : Node := .array (ss.map fun s => .text s.toList)

theorem writes_string (s : String) : Writes (stringText s) (.text s.toList) := by
  obtain ⟨isTripled, hread⟩ := read_quoted s.toList
  exact ⟨[.text s.toList isTripled], fun rest => hread '\n' rest (by decide) (by decide),
    fun k => Growth.yields_text k s.toList isTripled⟩

theorem writes_boolean (b : Bool) : Writes (booleanText b) (.scalar (.boolean b)) := by
  have hword : ∀ name : List Char, IsBareKey name → Scalar.ofWord? name = some (.boolean b) →
      Writes name (.scalar (.boolean b)) := by
    intro name hname hvalue
    refine ⟨[.word name], fun rest => read_bareKey hname (by decide), fun k => ?_⟩
    refine Growth.yields_step ?_
    change ((Scalar.ofWord? name).map Node.scalar).bind (Growth.place · [.setting k]) = _
    rw [hvalue]
    rfl
  cases b with
  | true => exact hword _ (by decide) rfl
  | false => exact hword _ (by decide) rfl

/-- An item on a line of its own. -/
def itemLine (s : String) : List Char := "    ".toList ++ stringText s ++ [',', '\n']

theorem scans_itemLine (s : String) : ∃ ts, Scans .between (itemLine s) ts .between ∧
    ∀ items outer, Growth.Yields (.value (.array items :: outer)) ts []
      (.value (.array (.text s.toList :: items) :: outer)) := by
  obtain ⟨isTripled, hread⟩ := read_quoted s.toList
  refine ⟨[.blank, .blank, .blank, .blank, .text s.toList isTripled, .comma, .newline], ?_, ?_⟩
  · intro rest
    have hitem := hread ',' ('\n' :: rest) (by decide) (by decide)
    have htext : itemLine s ++ rest =
        ' ' :: ' ' :: ' ' :: ' ' :: (Toml.quoted s.toList ++ ',' :: '\n' :: rest) := by
      simp [itemLine, stringText]
    rw [htext]
    change .blank :: .blank :: .blank :: .blank :: read .between _ = _
    rw [hitem]
    rfl
  · intro items outer
    exact .cons rfl (.cons rfl (.cons rfl (.cons rfl (.cons rfl (.cons rfl
      (Growth.yields_step rfl))))))

theorem scans_itemLines (ss : List String) :
    ∃ ts, Scans .between (ss.flatMap itemLine) ts .between ∧
      ∀ items outer, Growth.Yields (.value (.array items :: outer)) ts []
        (.value (.array ((ss.map fun s => .text s.toList).reverse ++ items) :: outer)) := by
  induction ss with
  | nil => exact ⟨[], scans_nil, fun items outer => Growth.yields_nil⟩
  | cons s ss ih =>
    obtain ⟨ts, hscans, hyields⟩ := scans_itemLine s
    obtain ⟨us, hscans', hyields'⟩ := ih
    refine ⟨ts ++ us, hscans.append hscans', fun items outer => ?_⟩
    simpa using (hyields items outer).append (hyields' _ outer)

theorem writes_list (ss : List String) : Writes (listText ss) (listNode ss) := by
  match ss with
  | [] =>
    refine ⟨[.openBracket, .closeBracket], fun rest => rfl, fun k => ?_⟩
    exact .cons rfl (Growth.yields_step rfl)
  | [s] =>
    obtain ⟨isTripled, hread⟩ := read_quoted s.toList
    refine ⟨[.openBracket, .text s.toList isTripled, .closeBracket], fun rest => ?_, fun k => ?_⟩
    · have htext : listText [s] ++ '\n' :: rest =
          '[' :: (Toml.quoted s.toList ++ ']' :: '\n' :: rest) := by
        simp [listText, stringText]
      rw [htext]
      change .openBracket :: read .between _ = _
      rw [hread ']' _ (by decide) (by decide)]
      rfl
    · exact .cons rfl (.cons rfl (Growth.yields_step rfl))
  | s :: s' :: ss =>
    obtain ⟨ts, hscans, hyields⟩ := scans_itemLines (s :: s' :: ss)
    refine ⟨[.openBracket, .newline] ++ ts ++ [.closeBracket], fun rest => ?_, fun k => ?_⟩
    · have htext : listText (s :: s' :: ss) ++ '\n' :: rest =
          '[' :: '\n' :: ((s :: s' :: ss).flatMap itemLine ++ ']' :: '\n' :: rest) := by
        change ['[', '\n'] ++ (s :: s' :: ss).flatMap itemLine ++ [']'] ++ '\n' :: rest = _
        simp
      rw [htext]
      change .openBracket :: .newline :: Scan.read .between _ = _
      rw [hscans, List.append_assoc]
      rfl
    · have hopen : Growth.Yields (.value [.setting k]) [.openBracket, .newline] []
          (.value [.array [], .setting k]) := .cons rfl (Growth.yields_step rfl)
      refine (hopen.append (hyields [] [.setting k])).append (Growth.yields_step ?_)
      simp [Growth.step, Growth.stepValue, Growth.place, listNode]

/-! The three tables. -/

def Project.members (p : Project) : List (String × Node) := [("name", .text p.name.toList)]

def Export.members (e : Export) : List (String × Node) :=
  [("schema_dir", .text e.schemaDir.toList), ("outdir", .text e.outDir.toList),
    ("source", .text e.source.name.toList), ("exclude", listNode e.exclude),
    ("logs", .scalar (.boolean e.logs))]

def Logging.members (l : Logging) : List (String × Node) :=
  [("level", .text l.level.toList), ("json_format", .scalar (.boolean l.jsonFormat))]

/-- The root table of written settings. -/
def tables (s : Settings) : Table :=
  ⟨.header, [("project", .table .header s.project.members),
    ("export", .table .header s.exported.members), ("logging", .table .header s.logging.members)]⟩

theorem says_line {value : List Char} {v : Node} (hkey : IsBareKey key.toList)
    (h : Writes value v) : Says (line key value) [.setting ⟨[], key⟩ v] := by
  simpa [line] using says_setting hkey h

theorem says_project (p : Project) : Says p.lines (tableStatements "project" p.members) :=
  (says_heading "project".toList (by decide)).append
    (says_line (by decide) (writes_string p.name))

theorem says_export (e : Export) : Says e.lines (tableStatements "export" e.members) :=
  (((((says_heading "export".toList (by decide)).append
    (says_line (by decide) (writes_string e.schemaDir))).append
    (says_line (by decide) (writes_string e.outDir))).append
    (says_line (by decide) (writes_string e.source.name))).append
    (says_line (by decide) (writes_list e.exclude))).append
    (says_line (by decide) (writes_boolean e.logs))

theorem says_logging (l : Logging) : Says l.lines (tableStatements "logging" l.members) :=
  ((says_heading "logging".toList (by decide)).append
    (says_line (by decide) (writes_string l.level))).append
    (says_line (by decide) (writes_boolean l.jsonFormat))

theorem says_render (s : Settings) : Says (render s).toList
    (tableStatements "project" s.project.members ++ tableStatements "export" s.exported.members ++
      tableStatements "logging" s.logging.members) := by
  have hlines := (((says_project s.project).append says_newline).append
    (says_export s.exported)).append (says_newline.append (says_logging s.logging))
  simpa [render] using hlines

/-- The tables that written settings are read as. -/
theorem ofText?_render (s : Settings) : Document.ofText? (render s) = some s.tables := by
  have hstatements := statements?_of_says (says_render s) (carries_render s).no_return
    (by simp [render, Project.lines, heading])
  rw [String.ofList_toList] at hstatements
  have hproject := foldlM_table "project" s.project.members (d := Document.empty)
    rfl (by simp) (by simp [Project.members])
  have hexported := foldlM_table "export" s.exported.members
    (d := ⟨⟨.header, [("project", .table .header s.project.members)]⟩, ["project"]⟩)
    rfl (by simp) (by simp [Export.members])
  have hlogging := foldlM_table "logging" s.logging.members
    (d := ⟨⟨.header, [("project", .table .header s.project.members),
      ("export", .table .header s.exported.members)]⟩, ["export"]⟩)
    rfl (by simp) (by simp [Logging.members])
  have hdocument : (tableStatements "project" s.project.members ++
      tableStatements "export" s.exported.members ++
      tableStatements "logging" s.logging.members).foldlM Document.add Document.empty =
        some ⟨s.tables, ["logging"]⟩ := by
    rw [List.foldlM_append, List.foldlM_append, hproject, Option.bind_eq_bind, Option.bind_some]
    exact (congrArg (Option.bind · _) hexported).trans hlogging
  rw [Document.ofText?, hstatements, Option.bind_eq_bind, Option.bind_some, hdocument]
  rfl

/-! The tables read as settings. -/

theorem text_string (s : String) : Decoder.text (.text s.toList) = .ok s :=
  congrArg Except.ok String.ofList_toList

theorem list_listNode (ss : List String) : Decoder.text.list (listNode ss) = .ok ss := by
  change (ss.map fun s : String => Node.text s.toList).mapM Decoder.text = .ok ss
  rw [mapM_eq_ok_iff, List.forall₂_map_left_iff, List.forall₂_same]
  exact fun s _ => text_string s

theorem variant_source (source : Schema.Source) :
    Decoder.variant Schema.Source.named (.text source.name.toList) = .ok source := by
  cases source <;> rfl

theorem record_project (p : Project) :
    Decoder.record Project.shape (.table .header p.members) = .ok p := by
  simp only [Decoder.record, Project.members, List.foldlM_cons, List.foldlM_nil]
  simp [Decoder.member, Shape.slot?, Project.shape, Slot.optional, text_string]

theorem record_export (e : Export) :
    Decoder.record Export.shape (.table .header e.members) = .ok e := by
  simp only [Decoder.record, Export.members, List.foldlM_cons, List.foldlM_nil]
  simp [Decoder.member, Shape.slot?, Export.shape, Slot.optional, text_string, list_listNode,
    variant_source, Decoder.boolean]
  rfl

theorem record_logging (l : Logging) :
    Decoder.record Logging.shape (.table .header l.members) = .ok l := by
  simp only [Decoder.record, Logging.members, List.foldlM_cons, List.foldlM_nil]
  simp [Decoder.member, Shape.slot?, Logging.shape, Slot.optional, text_string, Decoder.boolean]

theorem record_tables (s : Settings) : Decoder.record shape s.tables.node = .ok s := by
  simp only [Decoder.record, tables, Table.node, List.foldlM_cons, List.foldlM_nil]
  simp [Decoder.member, Shape.slot?, shape, Slot.optional, record_project, record_export,
    record_logging]
  rfl

/-- Written settings are read as what they were. -/
theorem ofText_render (s : Settings) : (Decoder.record shape).ofText (render s) = .ok s := by
  rw [Decoder.ofText, ofText?_render]
  exact record_tables s

end SchemaInterfaces.Settings
