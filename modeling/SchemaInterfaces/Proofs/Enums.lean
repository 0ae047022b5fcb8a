import SchemaInterfaces.Proofs.Readers
import SchemaInterfaces.Settings.Placeholders
import SchemaInterfaces.TypeScript.Enum

/-! Enum declarations read back: a member can be read off its line, so declarations with the same
text have the same members. -/
namespace SchemaInterfaces.TypeScript
open Schema Text

/-- Reads a text up to a quote that is not behind a backslash. -/
def readQuoted : List Char → Option (List Char × List Char)
  | [] => none
  | '\'' :: rest => some ([], rest)
  | '\\' :: c :: rest => (readQuoted rest).map fun (value, rest) => (c :: value, rest)
  | c :: rest => (readQuoted rest).map fun (value, rest) => (c :: value, rest)

/-- Reads a member off the start of a text. -/
def readMember : List Char → Option (Member × List Char)
  | ' ' :: ' ' :: s =>
    match cut (· == ' ') s with
    | (name, some ('=' :: ' ' :: '\'' :: s)) =>
      match readQuoted s with
      | some (value, ',' :: '\n' :: rest) => some (⟨String.ofList name, String.ofList value⟩, rest)
      | _ => none
    | _ => none
  | _ => none

variable {m : Member} {ms ns : List Member} {used : List String} {base label : String}

theorem replaceAll_singleton_cons (a c : Char) (new s : List Char) :
    Placeholders.replaceAll [a] new (c :: s) =
      (if c = a then new else [c]) ++ Placeholders.replaceAll [a] new s := by
  by_cases h : c = a
  · simp [Placeholders.replaceAll, Placeholders.replaceFrom, h]
  · simp [Placeholders.replaceAll, Placeholders.replaceFrom, h, Ne.symm h]

/-- One pass does what two replacements do, of the backslashes first and then of the quotes. -/
theorem escapeQuoted_eq (s : List Char) : escapeQuoted s =
    Placeholders.replaceAll ['\''] ['\\', '\'']
      (Placeholders.replaceAll ['\\'] ['\\', '\\'] s) := by
  induction s with
  | nil => rfl
  | cons c s ih =>
    rw [escapeQuoted, ih, replaceAll_singleton_cons]
    by_cases hback : c = '\\'
    · simp [hback, replaceAll_singleton_cons]
    · by_cases hquote : c = '\'' <;> simp [hback, hquote, replaceAll_singleton_cons]

theorem readQuoted_escapeQuoted (s rest : List Char) :
    readQuoted (escapeQuoted s ++ '\'' :: rest) = some (s, rest) := by
  induction s with
  | nil => rfl
  | cons c s ih =>
    by_cases hback : c = '\\'
    · subst hback
      simp [escapeQuoted, readQuoted, ih]
    · by_cases hquote : c = '\''
      · subst hquote
        simp [escapeQuoted, readQuoted, ih]
      · simp [escapeQuoted, hback, hquote, readQuoted, ih]

theorem readMember_memberLine (h : ' ' ∉ m.name.toList) (rest : List Char) :
    readMember ((EnumDecl.memberLine m).toList ++ rest) = some (m, rest) := by
  have hname := beq_eq_false_of_notMem h
  have hline : (EnumDecl.memberLine m).toList ++ rest = ' ' :: ' ' :: (m.name.toList ++ ' ' ::
      ('=' :: ' ' :: '\'' :: (escapeQuoted m.value.toList ++ '\'' :: (',' :: '\n' :: rest)))) := by
    simp [EnumDecl.memberLine]
  rw [hline, readMember, cut_append _ hname (by decide)]
  simp [readQuoted_escapeQuoted]

/-- All characters of a text may stand in a name. -/
def WordText (s : String) : Prop := ∀ c ∈ s.toList, isWordChar c = true

instance (s : String) : Decidable (WordText s) :=
  List.decidableBAll (fun c => isWordChar c = true) s.toList

theorem WordText.notMem {s : String} {c : Char} (h : WordText s) (hc : isWordChar c = false) :
    c ∉ s.toList := by
  intro hmem
  have hword := h c hmem
  rw [hc] at hword
  contradiction

theorem WordText.append {s t : String} (hs : WordText s) (ht : WordText t) :
    WordText (s ++ t) := by
  intro c hc
  rw [String.toList_append] at hc
  rcases List.mem_append.mp hc with hc | hc
  · exact hs c hc
  · exact ht c hc

theorem isWordChar_of_isDigit {c : Char} (h : c.isDigit = true) : isWordChar c = true := by
  have hc : 0x30 ≤ c.toNat ∧ c.toNat ≤ 0x39 := by
    simpa [Char.isDigit, UInt32.le_iff_toNat_le] using h
  have hn : isNumeric c = true := by
    rw [isNumeric, numericRanges, inRanges, if_neg (by omega)]
    simp [hc.2]
  simp [isWordChar, isAlphanumeric, hn]

theorem wordText_repr (n : Nat) : WordText (toString n) := by
  intro c hc
  have hdigit : c ∈ Nat.toDigits 10 n := by simpa using hc
  exact isWordChar_of_isDigit (Nat.isDigit_of_mem_toDigits (by decide) (by decide) hdigit)

theorem isWordChar_line : isWordChar '_' = true := by decide

theorem wordText_line : WordText "_" := by
  intro c hc
  obtain rfl : c = '_' := by simpa using hc
  exact isWordChar_line

theorem wordText_memberName (label : String) : WordText (memberName label) := by
  have hall : ∀ c ∈ (trimChars label.toList).map fun c => if isAlphanumeric c then c else '_',
      isWordChar c = true := by
    intro c hc
    obtain ⟨d, _, rfl⟩ := List.mem_map.mp hc
    by_cases hd : isAlphanumeric d = true
    · simp [hd, isWordChar]
    · simpa [hd] using isWordChar_line
  unfold memberName
  dsimp only
  split
  · exact wordText_line
  · rename_i d rest hname
    intro c hc
    rw [String.toList_ofList] at hc
    split at hc
    · rcases List.mem_cons.mp hc with rfl | hc
      · exact isWordChar_line
      · exact hall c hc
    · exact hall c hc

theorem wordText_firstUnused (h : WordText base) (fuel k : Nat) :
    WordText (firstUnused used base fuel k) := by
  have hname : ∀ k : Nat, WordText s!"{base}_{k}" := fun k =>
    (h.append wordText_line).append (wordText_repr k)
  induction fuel generalizing k with
  | zero => exact hname k
  | succ fuel ih =>
    rw [firstUnused]
    split
    · exact ih (k + 1)
    · exact hname k

theorem wordText_freshName (h : WordText base) (used : List String) :
    WordText (freshName used base) := by
  unfold freshName
  split
  · exact wordText_firstUnused h used.length 2
  · exact h

theorem wordText_of_mem_membersFrom {choices : List Choice} (h : m ∈ membersFrom used choices) :
    WordText m.name := by
  induction choices generalizing used with
  | nil => simp [membersFrom] at h
  | cons c rest ih =>
    rw [membersFrom] at h
    rcases List.mem_cons.mp h with rfl | h
    · exact wordText_freshName (wordText_memberName c.label) used
    · exact ih h

theorem isPrefixOf?_memberLine (m : Member) (rest : List Char) :
    ['\x7d'].isPrefixOf? ((EnumDecl.memberLine m).toList ++ rest) = none := by
  simp [EnumDecl.memberLine, List.isPrefixOf?]

/-- The members are read off their lines up to the brace behind them. -/
theorem reads_members (h : ∀ m ∈ ms, WordText m.name) : Reads (Reader.many readMember ['\x7d']) ms
    (String.join (ms.map EnumDecl.memberLine) ++ "\x7d").toList := by
  have htext : (String.join (ms.map EnumDecl.memberLine) ++ "\x7d").toList =
      ms.flatMap (fun m => (EnumDecl.memberLine m).toList) ++ ['\x7d'] := by
    rw [String.toList_append, String.toList_join, List.flatMap_map]
    rfl
  rw [htext]
  exact Reads.many (fun m hm => readMember_memberLine ((h m hm).notMem (by decide)))
    fun m _ => isPrefixOf?_memberLine m

/-- The lines of members, up to the brace behind them, tell the members apart. -/
theorem eq_of_join_memberLine (hm : ∀ m ∈ ms, WordText m.name) (hn : ∀ n ∈ ns, WordText n.name)
    (h : String.join (ms.map EnumDecl.memberLine) ++ "\x7d" =
      String.join (ns.map EnumDecl.memberLine) ++ "\x7d") : ms = ns :=
  (reads_members hm).inj (reads_members hn) (congrArg String.toList h)

/-- Enums of one name have one text only if they have the same members. -/
theorem render_ofChoices_eq_iff {name : String} {choices others : List Choice} :
    (EnumDecl.ofChoices name choices).render = (EnumDecl.ofChoices name others).render ↔
      membersFrom [] choices = membersFrom [] others := by
  have hrender : ∀ cs, (EnumDecl.ofChoices name cs).render = "export enum " ++ name ++ " \x7b\n" ++
      (String.join ((membersFrom [] cs).map EnumDecl.memberLine) ++ "\x7d") := by
    intro cs
    exact String.append_assoc ..
  rw [hrender, hrender, String.append_right_inj]
  constructor
  · exact eq_of_join_memberLine (fun m => wordText_of_mem_membersFrom)
      fun n => wordText_of_mem_membersFrom
  · intro h
    rw [h]

end SchemaInterfaces.TypeScript
