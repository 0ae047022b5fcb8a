import SchemaInterfaces.Proofs.Declarations
import SchemaInterfaces.Proofs.Supplies

/-! A reader of whole files: it finds the imports, the enums, the name and the fields that a file was
made of, if none of them holds what ends it in the file. -/
namespace SchemaInterfaces.TypeScript
open Text

namespace Interface

/-- Reads a line. -/
def readLine : Reader String := do
  let line ← Reader.upTo '\n'
  return String.ofList line

/-- Reads an enum and the empty line behind it, and gives the text of the enum. -/
def readEnum : Reader String := do
  let d ← EnumDecl.reader
  Reader.exactly "\n\n".toList
  return d.render

/-- Reads the line of a field. The name of the field ends at the colon. -/
def readField : Reader (String × String) := do
  Reader.exactly "  ".toList
  let name ← Reader.upTo ':'
  let t ← Reader.line " ".toList ";".toList
  return (String.ofList name, String.ofList t)

/-- Reads what stands below the imports of a file. -/
def readBelow (imports : List String) : Reader Interface := do
  let enums ← Reader.many readEnum "export interface ".toList
  let name ← Reader.line [] " \x7b".toList
  let fields ← Reader.many readField "\x7d\n\n".toList
  return { name := String.ofList name, imports, enums, fields }

/-- Reads a file. It begins with an import unless it has none. -/
def reader : Reader Interface :=
  Reader.branch "import ".toList (Reader.many readLine ['\n'] >>= readBelow) (readBelow [])

/-- The interface whose file has that text. -/
def read? (text : String) : Option Interface := reader.whole? text

/-- The parts of an interface can be told apart in its file. -/
structure Legible (u : Interface) : Prop where
  name : '\n' ∉ u.name.toList
  imports : ∀ line ∈ u.imports, ∃ i : Import, i.render = line ∧ '\n' ∉ line.toList
  enums : ∀ text ∈ u.enums, ∃ d : EnumDecl, d.render = text ∧ d.Legible
  fields : ∀ f ∈ u.fields, ':' ∉ f.1.toList ∧ '\n' ∉ f.2.toList

variable {u v : Interface} {line separator : String} {items : List String} {f : String × String}

/-- A block as what its items and the separators behind them make up. -/
theorem toList_intercalate_append (hne : items ≠ []) :
    (separator.intercalate items ++ separator).toList =
      items.flatMap fun item => item.toList ++ separator.toList := by
  induction items with
  | nil => contradiction
  | cons item items ih =>
    cases items with
    | nil => simp
    | cons next items =>
      have hrest := ih (List.cons_ne_nil next items)
      rw [List.flatMap_cons, ← hrest, String.intercalate_cons_cons]
      simp only [String.toList_append, List.append_assoc]

theorem reads_line (h : '\n' ∉ line.toList) : Reads readLine line (line.toList ++ ['\n']) := by
  have hread : Reads readLine (String.ofList line.toList) (line.toList ++ ['\n']) :=
    (Reads.upTo h).bind_pure String.ofList
  rwa [String.ofList_toList] at hread

theorem reads_enum {d : EnumDecl} (h : d.Legible) :
    Reads readEnum d.render (d.render.toList ++ "\n\n".toList) := by
  have hgap : Reads (Reader.exactly "\n\n".toList >>= fun _ => pure d.render) d.render
      "\n\n".toList := (Reads.exactly _).bind_pure fun _ => d.render
  exact (EnumDecl.reads_render h).bind hgap

theorem reads_field (hname : ':' ∉ f.1.toList) (ht : '\n' ∉ f.2.toList) :
    Reads readField f (fieldLine f).toList := by
  have hread : Reads readField (String.ofList f.1.toList, String.ofList f.2.toList)
      ("  ".toList ++ (f.1.toList ++ [':'] ++
        (" ".toList ++ (f.2.toList ++ ";".toList ++ ['\n'])))) :=
    (Reads.exactly _).bind ((Reads.upTo hname).bind
      ((Reads.line ht (by decide)).bind_pure fun t => (String.ofList f.1.toList, String.ofList t)))
  simpa [fieldLine] using hread

theorem toList_block_enums (items : List String) : (block "\n\n" items).toList =
    items.flatMap fun item => item.toList ++ "\n\n".toList := by
  cases items with
  | nil => rfl
  | cons item items => exact toList_intercalate_append (List.cons_ne_nil item items)

theorem toList_block_imports (hne : items ≠ []) : (block "\n" items).toList =
    (items.flatMap fun item => item.toList ++ ['\n']) ++ ['\n'] := by
  have hend : "\n\n" = "\n" ++ "\n" := rfl
  have hitems : ("\n".intercalate items ++ "\n").toList =
      items.flatMap fun item => item.toList ++ ['\n'] := toList_intercalate_append hne
  rw [block, if_neg (by simpa using hne), hend, ← String.append_assoc, String.toList_append,
    hitems]
  rfl

theorem reads_enums (h : ∀ text ∈ u.enums, ∃ d : EnumDecl, d.render = text ∧ d.Legible) :
    Reads (Reader.many readEnum "export interface ".toList) u.enums
      ((block "\n\n" u.enums).toList ++ "export interface ".toList) := by
  rw [toList_block_enums]
  refine Reads.many ?_ ?_
  · intro text htext
    obtain ⟨d, rfl, hd⟩ := h text htext
    exact reads_enum hd
  · intro text htext rest
    obtain ⟨d, rfl, -⟩ := h text htext
    unfold EnumDecl.render
    simp [List.isPrefixOf?]

theorem reads_fields (h : ∀ f ∈ u.fields, ':' ∉ f.1.toList ∧ '\n' ∉ f.2.toList) :
    Reads (Reader.many readField "\x7d\n\n".toList) u.fields
      (u.fields.flatMap (fun f => (fieldLine f).toList) ++ "\x7d\n\n".toList) := by
  refine Reads.many (fun f hf => reads_field (h f hf).1 (h f hf).2) ?_
  intro f _ rest
  simp [fieldLine, List.isPrefixOf?]

/-- Below its imports a file is read up to its end: enums up to the interface, fields up to the
brace. -/
theorem reads_below (h : u.Legible) :
    Reads (readBelow u.imports) u ((block "\n\n" u.enums).toList ++ u.body.toList) := by
  have hfields : Reads (Reader.many readField "\x7d\n\n".toList >>= fun fields =>
      pure ({ u with name := String.ofList u.name.toList, fields } : Interface)) u
      (u.fields.flatMap (fun f => (fieldLine f).toList) ++ "\x7d\n\n".toList) := by
    rw [String.ofList_toList]
    exact (reads_fields h.fields).bind_pure _
  have hread : Reads (readBelow u.imports) u
      ((block "\n\n" u.enums).toList ++ "export interface ".toList ++
        ([] ++ (u.name.toList ++ " \x7b".toList ++ ['\n']) ++
          (u.fields.flatMap (fun f => (fieldLine f).toList) ++ "\x7d\n\n".toList))) :=
    (reads_enums h.enums).bind ((Reads.line h.name (by decide)).bind hfields)
  have hbody : u.body.toList = "export interface ".toList ++
      ([] ++ (u.name.toList ++ " \x7b".toList ++ ['\n']) ++
        (u.fields.flatMap (fun f => (fieldLine f).toList) ++ "\x7d\n\n".toList)) := by
    unfold body
    simp [String.toList_join, List.flatMap_map]
  rwa [hbody, ← List.append_assoc]

/-- What stands below the imports does not begin like one. -/
theorem isPrefixOf?_below (u : Interface) (rest : List Char)
    (h : ∀ text ∈ u.enums, ∃ d : EnumDecl, d.render = text ∧ d.Legible) :
    "import ".toList.isPrefixOf?
      ((block "\n\n" u.enums).toList ++ u.body.toList ++ rest) = none := by
  rw [toList_block_enums]
  unfold body
  cases hu : u.enums with
  | nil => simp [List.isPrefixOf?]
  | cons text texts =>
    obtain ⟨d, rfl, -⟩ := h text (by simp [hu])
    unfold EnumDecl.render
    simp [List.isPrefixOf?]

theorem isPrefixOf?_import (i : Import) (rest : List Char) :
    ("import ".toList.isPrefixOf? (i.render.toList ++ rest)).isSome ∧
      ['\n'].isPrefixOf? (i.render.toList ++ rest) = none := by
  simp [Import.render, List.isPrefixOf?]

/-- The file of a legible interface is read back, up to its end. -/
theorem reads_render (h : u.Legible) : Reads reader u u.render.toList := by
  have hbelow := reads_below h
  rw [render_eq, blocks, String.toList_append, String.toList_append]
  cases hu : u.imports with
  | nil =>
    rw [hu] at hbelow
    refine Reads.branch_right (fun rest => ?_) hbelow
    simpa [block] using isPrefixOf?_below u rest h.enums
  | cons line lines =>
    -- The empty line behind the imports ends them: a line of an import is never empty.
    have hlines : Reads (Reader.many readLine ['\n']) u.imports (block "\n" u.imports).toList := by
      rw [toList_block_imports (by simp [hu])]
      refine Reads.many ?_ ?_
      · intro line hline
        obtain ⟨-, -, hnewline⟩ := h.imports line hline
        exact reads_line hnewline
      · intro line hline rest
        obtain ⟨i, rfl, -⟩ := h.imports line hline
        rw [List.append_assoc]
        exact (isPrefixOf?_import i _).2
    rw [← hu, List.append_assoc]
    refine Reads.branch_left (fun rest => ?_) (hlines.bind hbelow)
    obtain ⟨i, rfl, -⟩ := h.imports line (by simp [hu])
    rw [toList_block_imports (by simp [hu]), hu, List.flatMap_cons]
    simp only [List.append_assoc]
    exact (isPrefixOf?_import i _).1

theorem eq_of_render_eq (hu : u.Legible) (hv : v.Legible) (h : u.render = v.render) : u = v :=
  (reads_render hu).inj (reads_render hv) (congrArg String.toList h)

end Interface

end SchemaInterfaces.TypeScript
