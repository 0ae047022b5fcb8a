import Mathlib.Data.List.Dedup
import SchemaInterfaces.Proofs.Blocks
import SchemaInterfaces.Proofs.Enums

/-! Whole enum declarations read back: the text of one tells its name and its members, so a file
keeps one text for each distinct declaration. -/
namespace SchemaInterfaces.TypeScript
open Schema Text

namespace EnumDecl

/-- Reads a declaration off the start of a text: its name is all that the first line has between
the keywords and the brace. -/
def reader : Reader EnumDecl := do
  let name ← Reader.line "export enum ".toList " \x7b".toList
  let members ← Reader.many readMember ['\x7d']
  return ⟨String.ofList name, members⟩

/-- The declaration that is all of a text. -/
def read? (text : String) : Option EnumDecl := reader.whole? text

/-- The name of a declaration is on one line, and its members have names of one word. -/
structure Legible (d : EnumDecl) : Prop where
  name : '\n' ∉ d.name.toList
  members : ∀ m ∈ d.members, WordText m.name

variable {d : EnumDecl} {ds : List EnumDecl} {name other : String} {choices others : List Choice}

theorem reads_render (h : d.Legible) : Reads reader d d.render.toList := by
  have hmembers : Reads (Reader.many readMember ['\x7d'] >>= fun members =>
      pure (⟨String.ofList d.name.toList, members⟩ : EnumDecl)) d
      (String.join (d.members.map memberLine) ++ "\x7d").toList := by
    rw [String.ofList_toList]
    exact (reads_members h.members).bind_pure _
  have hread : Reads reader d ("export enum ".toList ++
      (d.name.toList ++ " \x7b".toList ++ ['\n']) ++
        (String.join (d.members.map memberLine) ++ "\x7d").toList) :=
    (Reads.line h.name (by decide)).bind hmembers
  unfold render
  simpa [String.append_assoc] using hread

theorem legible_ofChoices (h : '\n' ∉ name.toList) : (ofChoices name choices).Legible :=
  ⟨h, fun _ => wordText_of_mem_membersFrom⟩

theorem eq_of_render_eq {e : EnumDecl} (hd : d.Legible) (he : e.Legible)
    (h : d.render = e.render) : d = e :=
  (reads_render hd).inj (reads_render he) (congrArg String.toList h)

end EnumDecl

theorem legible_of_mem_enumsOf {e : Entity} {d : EnumDecl} (h : d ∈ enumsOf e)
    (hname : '\n' ∉ d.name.toList) : d.Legible := by
  obtain ⟨f, -, hf⟩ := List.mem_filterMap.mp h
  obtain ⟨-, rfl⟩ := enumOf?_eq_some_iff.mp hf
  exact EnumDecl.legible_ofChoices hname

/-- The texts of a file's enums are those of the distinct declarations of its fields. -/
theorem perm_enums {infer : Inferrer} {e : Entity} {u : Interface} {b : Fallbacks}
    (h : Interface.ofEntity infer e = .ok (u, b)) (hname : ∀ d ∈ enumsOf e, '\n' ∉ d.name.toList) :
    u.enums.Perm ((enumsOf e).dedup.map EnumDecl.render) := by
  have hinj : ∀ d ∈ (enumsOf e).dedup, ∀ c ∈ (enumsOf e).dedup, d.render = c.render → d = c := by
    intro d hd c hc
    have hd := List.mem_dedup.mp hd
    have hc := List.mem_dedup.mp hc
    exact EnumDecl.eq_of_render_eq (legible_of_mem_enumsOf hd (hname d hd))
      (legible_of_mem_enumsOf hc (hname c hc))
  have hnodup : ((enumsOf e).dedup.map EnumDecl.render).Nodup :=
    (List.nodup_dedup _).map_on hinj
  have hone : u.enums.Nodup := (Interface.ordered_ofEntity h).enums.imp ne_of_lt
  rw [List.perm_ext_iff_of_nodup hone hnodup]
  intro text
  rw [Interface.mem_enums_iff h]
  simp only [List.mem_map, List.mem_dedup]

/-- An enum is read back from its text, if its name is on one line, whatever the labels and the
values of its choices hold. So two of them have one text only if they are one, and a file keeps one
text for each distinct enum of its fields. -/
theorem enums_read_back :
    (∀ (name : String) (choices : List Choice), '\n' ∉ name.toList →
      let d := EnumDecl.ofChoices name choices
      EnumDecl.read? d.render = some d ∧ d.name = name ∧
        d.members.map (·.value) = choices.map (·.value)) ∧
    (∀ (name other : String) (choices others : List Choice),
      '\n' ∉ name.toList → '\n' ∉ other.toList →
        ((EnumDecl.ofChoices name choices).render = (EnumDecl.ofChoices other others).render ↔
          EnumDecl.ofChoices name choices = EnumDecl.ofChoices other others)) ∧
    ∀ (infer : Inferrer) (e : Entity) (u : Interface) (b : Fallbacks),
      Interface.ofEntity infer e = .ok (u, b) → (∀ d ∈ enumsOf e, '\n' ∉ d.name.toList) →
        u.enums.Perm ((enumsOf e).dedup.map EnumDecl.render) := by
  refine ⟨?_, ?_, fun infer e u b h hname => perm_enums h hname⟩
  · intro name choices hname d
    exact ⟨(EnumDecl.reads_render (EnumDecl.legible_ofChoices hname)).whole?, rfl,
      membersFrom_values [] choices⟩
  · intro name other choices others hname hother
    constructor
    · exact EnumDecl.eq_of_render_eq (EnumDecl.legible_ofChoices hname)
        (EnumDecl.legible_ofChoices hother)
    · exact congrArg EnumDecl.render

/-- A value that looks like the end of its line and another member. -/
example : let d := EnumDecl.ofChoices "E" [⟨"a',\n  B = 'b\\", "A"⟩, ⟨"\x7d\n", "A"⟩]
    EnumDecl.read? d.render = some d := by
  decide +kernel

end SchemaInterfaces.TypeScript
