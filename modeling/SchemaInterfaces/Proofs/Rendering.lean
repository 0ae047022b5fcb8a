import SchemaInterfaces.TypeScript.Interface

/-! The lines of a rendered interface that other files rely on. -/
namespace SchemaInterfaces.TypeScript

/-- A text after which a new line begins. -/
def EndsLine (s : String) : Prop := s = "" ∨ ∃ rest, s = rest ++ "\n"

/-- A text holds something from the start of a line to the end of one. -/
def HasLine (text line : String) : Prop :=
  ∃ before after, text = before ++ line ++ "\n" ++ after ∧ EndsLine before

variable {s t line separator : String} {items : List String}

theorem EndsLine.append (hs : EndsLine s) (ht : EndsLine t) : EndsLine (s ++ t) := by
  rcases ht with rfl | ⟨rest, rfl⟩
  · simpa using hs
  · exact Or.inr ⟨s ++ rest, (String.append_assoc ..).symm⟩

theorem HasLine.append (h : HasLine s line) (t : String) : HasLine (s ++ t) line := by
  obtain ⟨before, after, rfl, hb⟩ := h
  exact ⟨before, after ++ t, String.append_assoc .., hb⟩

namespace Interface

theorem endsLine_block (separator : String) (items : List String) :
    EndsLine (block separator items) := by
  unfold block
  split
  · exact Or.inl rfl
  · refine Or.inr ⟨separator.intercalate items ++ "\n", ?_⟩
    rw [String.append_assoc]
    rfl

theorem block_cons (line : String) (items : List String) :
    ∃ after, block "\n" (line :: items) = line ++ "\n" ++ after ∧
      (items ≠ [] → after = block "\n" items) := by
  cases items with
  | nil => exact ⟨"\n", by simp [block, String.append_assoc], by simp⟩
  | cons next items =>
    refine ⟨block "\n" (next :: items), ?_, fun _ => rfl⟩
    simp [block, String.append_assoc]

theorem hasLine_block (h : line ∈ items) : HasLine (block "\n" items) line := by
  induction items with
  | nil => contradiction
  | cons first items ih =>
    obtain ⟨after, hblock, hafter⟩ := block_cons first items
    rcases List.mem_cons.mp h with rfl | h
    · exact ⟨"", after, by rw [hblock, String.empty_append], Or.inl rfl⟩
    · obtain ⟨before, rest, htext, hb⟩ := ih h
      refine ⟨first ++ "\n" ++ before, rest, ?_, ?_⟩
      · rw [hblock, hafter (List.ne_nil_of_mem h), htext]
        simp only [String.append_assoc]
      · exact EndsLine.append (Or.inr ⟨first, rfl⟩) hb

variable {u : Interface}

theorem hasLine_import (h : line ∈ u.imports) : HasLine u.render line := by
  simp only [render, String.append_assoc]
  exact (hasLine_block h).append _

/-- The file of an interface declares it under its name. -/
theorem hasLine_header (u : Interface) :
    HasLine u.render ("export interface " ++ u.name ++ " \x7b") := by
  refine ⟨block "\n" u.imports ++ block "\n\n" u.enums,
    String.join (u.fields.map fieldLine) ++ "\x7d\n\n", ?_, ?_⟩
  · have hopen : " \x7b\n" = " \x7b" ++ "\n" := rfl
    simp only [render, hopen, String.append_assoc]
  · exact (endsLine_block ..).append (endsLine_block ..)

end Interface

end SchemaInterfaces.TypeScript
