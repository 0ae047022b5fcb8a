import SchemaInterfaces.Proofs.MemberNames
import SchemaInterfaces.Text.Identifier

/-! Member names as identifiers: every name is one but for two things that a label may bring along,
letters and numbers that no identifier holds, and a first one that none starts with. -/
namespace SchemaInterfaces.Text

/-- Numbers that are neither digits nor letters, such as ², ½ and ①. -/
def oddNumberRanges : List (Nat × Nat) :=
  [(0xB2, 0xB3), (0xB9, 0xB9), (0xBC, 0xBE), (0x9F4, 0x9F9), (0xB72, 0xB77), (0xBF0, 0xBF2),
   (0xC78, 0xC7E), (0xD58, 0xD5E), (0xD70, 0xD78), (0xF2A, 0xF33), (0x1372, 0x137C),
   (0x17F0, 0x17F9), (0x2070, 0x2070), (0x2074, 0x2079), (0x2080, 0x2089), (0x2150, 0x215F),
   (0x2189, 0x2189), (0x2460, 0x249B), (0x24EA, 0x24FF), (0x2776, 0x2793), (0x2CFD, 0x2CFD),
   (0x3192, 0x3195), (0x3220, 0x3229), (0x3248, 0x324F), (0x3251, 0x325F), (0x3280, 0x3289),
   (0x32B1, 0x32BF), (0xA830, 0xA835), (0x10107, 0x10133), (0x10175, 0x10178), (0x1018A, 0x1018B),
   (0x102E1, 0x102FB), (0x10320, 0x10323), (0x10858, 0x1085F), (0x10879, 0x1087F),
   (0x108A7, 0x108AF), (0x108FB, 0x108FF), (0x10916, 0x1091B), (0x109BC, 0x109BD),
   (0x109C0, 0x109CF), (0x109D2, 0x109FF), (0x10A40, 0x10A48), (0x10A7D, 0x10A7E),
   (0x10A9D, 0x10A9F), (0x10AEB, 0x10AEF), (0x10B58, 0x10B5F), (0x10B78, 0x10B7F),
   (0x10BA9, 0x10BAF), (0x10CFA, 0x10CFF), (0x10E60, 0x10E7E), (0x10F1D, 0x10F26),
   (0x10F51, 0x10F54), (0x10FC5, 0x10FCB), (0x11052, 0x11065), (0x111E1, 0x111F4),
   (0x1173A, 0x1173B), (0x118EA, 0x118F2), (0x11C5A, 0x11C6C), (0x11FC0, 0x11FD4),
   (0x16B5B, 0x16B61), (0x16E80, 0x16E96), (0x1D2C0, 0x1D2D3), (0x1D2E0, 0x1D2F3),
   (0x1D360, 0x1D378), (0x1E8C7, 0x1E8CF), (0x1EC71, 0x1ECAB), (0x1ECAD, 0x1ECAF),
   (0x1ECB1, 0x1ECB4), (0x1ED01, 0x1ED2D), (0x1ED2F, 0x1ED3D), (0x1F100, 0x1F10C)]

/-- Letters that are symbols, in circles and squares, and the vertical tilde. -/
def oddLetterRanges : List (Nat × Nat) :=
  [(0x24B6, 0x24E9), (0x2E2F, 0x2E2F), (0x1F130, 0x1F149), (0x1F150, 0x1F169), (0x1F170, 0x1F189)]

/-- A letter or number that no identifier holds. -/
def isOdd (c : Char) : Bool :=
  inRanges c.toNat oddNumberRanges || inRanges c.toNat oddLetterRanges

variable {c : Char}

theorem pairwise_idContinue : idContinueRanges.Pairwise Precedes :=
  pairwise_of_isChain (by decide +kernel)

theorem pairwise_idStart : idStartRanges.Pairwise Precedes :=
  pairwise_of_isChain (by decide +kernel)

theorem uncovered_numbers : uncovered numericRanges idContinueRanges = oddNumberRanges := by
  decide +kernel

theorem uncovered_letters : uncovered alphabeticRanges idContinueRanges = oddLetterRanges := by
  decide +kernel

/-- The odd characters are exactly what the classes of letters and numbers have beyond that of
identifiers. -/
theorem isOdd_iff : isOdd c = true ↔ isAlphanumeric c = true ∧ isIdentifierPart c = false := by
  have hdollar : isAlphanumeric '$' = false := by decide
  have hpart : isAlphanumeric c = true →
      (isIdentifierPart c = false ↔ ¬ Held c.toNat idContinueRanges) := by
    intro h
    have hother : c ≠ '$' := by
      rintro rfl
      rw [hdollar] at h
      contradiction
    rw [isIdentifierPart, ← inRanges_iff_held pairwise_idContinue]
    simp [hother]
  have halnum : isAlphanumeric c = true ↔
      Held c.toNat numericRanges ∨ Held c.toNat alphabeticRanges := by
    rw [isAlphanumeric, Bool.or_eq_true, isAlphabetic, isNumeric,
      inRanges_iff_held pairwise_alphabetic, inRanges_iff_held pairwise_numeric, or_comm]
  have hodd : oddNumberRanges.Pairwise Precedes ∧ oddLetterRanges.Pairwise Precedes :=
    ⟨pairwise_of_isChain (by decide +kernel), pairwise_of_isChain (by decide +kernel)⟩
  rw [and_congr_right hpart, halnum, isOdd, Bool.or_eq_true, inRanges_iff_held hodd.1,
    inRanges_iff_held hodd.2, ← uncovered_numbers, ← uncovered_letters,
    held_uncovered_iff pairwise_numeric pairwise_idContinue,
    held_uncovered_iff pairwise_alphabetic pairwise_idContinue, or_and_right]

theorem isOdd_line : isOdd '_' = false := by decide

theorem isIdentifierStart_line : isIdentifierStart '_' = true := rfl

theorem isIdentifierPart_line : isIdentifierPart '_' = true := by decide +kernel

theorem isOdd_of_isDigit (h : c.isDigit = true) : isOdd c = false := by
  have hc : c.toNat ≤ 0x39 := by
    have hdigit : 0x30 ≤ c.toNat ∧ c.toNat ≤ 0x39 := by
      simpa [Char.isDigit, UInt32.le_iff_toNat_le] using h
    exact hdigit.2
  rw [isOdd, oddNumberRanges, oddLetterRanges, inRanges_cons_of_lt (by omega),
    inRanges_cons_of_lt (by omega), Bool.or_false]

/-- A character of a name may stand in an identifier unless it is odd. -/
theorem isIdentifierPart_iff (h : isWordChar c = true) :
    isIdentifierPart c = true ↔ isOdd c = false := by
  rw [isWordChar, Bool.or_eq_true, beq_iff_eq] at h
  rcases h with h | rfl
  · have hodd : isOdd c = true ↔ isIdentifierPart c = false := by rw [isOdd_iff, and_iff_right h]
    rw [← Bool.not_eq_false, ← hodd, Bool.not_eq_true]
  · simp [isIdentifierPart_line, isOdd_line]

/-- What an identifier starts with may also follow in it. -/
theorem isIdentifierPart_of_isIdentifierStart (h : isIdentifierStart c = true) :
    isIdentifierPart c = true := by
  have hcovered : uncovered idStartRanges idContinueRanges = [] := by decide +kernel
  rw [isIdentifierStart, Bool.or_eq_true, Bool.or_eq_true, beq_iff_eq, beq_iff_eq,
    inRanges_iff_held pairwise_idStart] at h
  rcases h with (rfl | rfl) | h
  · rfl
  · exact isIdentifierPart_line
  · have hpart : Held c.toNat idContinueRanges := by
      by_contra hnot
      apply not_held_nil c.toNat
      rw [← hcovered, held_uncovered_iff pairwise_idStart pairwise_idContinue]
      exact ⟨h, hnot⟩
    rw [isIdentifierPart, Bool.or_eq_true, inRanges_iff_held pairwise_idContinue]
    exact .inr hpart

end SchemaInterfaces.Text

namespace SchemaInterfaces.TypeScript
open Schema Text

/-- What a label must be like to give an identifier: without the blanks around it, it has no odd
character, and no letter in front, other than a number, that no identifier starts with. -/
structure Spellable (label : String) : Prop where
  part : ∀ c ∈ trimChars label.toList, isOdd c = false
  start : ∀ c, (trimChars label.toList).head? = some c → isAlphabetic c = true →
    isNumeric c = false → isIdentifierStart c = true

/-- The character of a member name for one of its label. -/
def spelt (c : Char) : Char := if isAlphanumeric c then c else '_'

variable {s t label base : String} {choices : List Choice} {c d : Char} {rest : List Char}

theorem isOdd_spelt (c : Char) : isOdd (spelt c) = isOdd c := by
  unfold spelt
  split
  · rfl
  · rename_i h
    rw [isOdd_line, eq_comm]
    by_contra hodd
    exact h (isOdd_iff.mp (by simpa using hodd)).1

/-- The first character of a label does no harm if it gets one in front of it or may start an
identifier. -/
theorem spelt_starts_iff : isNumeric (spelt d) = true ∨ isIdentifierStart (spelt d) = true ↔
    (isAlphabetic d = true → isNumeric d = false → isIdentifierStart d = true) := by
  cases ha : isAlphabetic d <;> cases hn : isNumeric d <;>
    simp [spelt, isAlphanumeric, ha, hn, isIdentifierStart_line]

theorem toList_memberName (h : trimChars label.toList = d :: rest) :
    (memberName label).toList =
      (if isNumeric (spelt d) then ['_'] else []) ++ (d :: rest).map spelt := by
  have hname : ((trimChars label.toList).map fun c => if isAlphanumeric c then c else '_') =
      spelt d :: rest.map spelt := by
    rw [h]
    rfl
  rw [memberName, hname, String.toList_ofList]
  split <;> rfl

/-- A member name is an identifier exactly if it has no odd character and a first one that may start
an identifier. -/
theorem isIdentifier_iff (h : NameText s) : isIdentifier s = true ↔
    (∀ c ∈ s.toList, isOdd c = false) ∧
      ∀ c, s.toList.head? = some c → isIdentifierStart c = true := by
  have hpart : ∀ c ∈ s.toList, (isIdentifierPart c = true ↔ isOdd c = false) := fun c hc =>
    isIdentifierPart_iff (h.word c hc)
  obtain ⟨c, hc, -⟩ := h.start
  obtain ⟨rest, hs⟩ := List.head?_eq_some_iff.mp hc
  rw [hs] at hpart ⊢
  rw [isIdentifier, hs, Bool.and_eq_true, List.all_eq_true]
  constructor
  · rintro ⟨hstart, hrest⟩
    refine ⟨?_, by simpa using hstart⟩
    intro d hd
    apply (hpart d hd).mp
    rcases List.mem_cons.mp hd with rfl | hd
    · exact isIdentifierPart_of_isIdentifierStart hstart
    · exact hrest d hd
  · rintro ⟨hall, hstart⟩
    refine ⟨hstart c rfl, ?_⟩
    intro d hd
    have hd := List.mem_cons_of_mem c hd
    exact (hpart d hd).mpr (hall d hd)

theorem isIdentifier_memberName_iff : isIdentifier (memberName label) = true ↔ Spellable label := by
  rw [isIdentifier_iff (nameText_memberName label)]
  cases h : trimChars label.toList with
  | nil =>
    have hname : memberName label = "_" := by simp [memberName, h]
    have hspell : Spellable label := ⟨by simp [h], by simp [h]⟩
    simp [hname, hspell, isOdd_line, isIdentifierStart_line]
  | cons d rest =>
    have hspell : Spellable label ↔ (∀ c ∈ d :: rest, isOdd c = false) ∧
        (isNumeric (spelt d) = true ∨ isIdentifierStart (spelt d) = true) := by
      rw [spelt_starts_iff]
      constructor
      · intro hs
        exact ⟨h ▸ hs.part, hs.start d (by rw [h]; rfl)⟩
      · rintro ⟨hpart, hstart⟩
        refine ⟨h ▸ hpart, ?_⟩
        intro c hc
        obtain rfl : d = c := by simpa [h] using hc
        exact hstart
    rw [hspell, toList_memberName h]
    by_cases hn : isNumeric (spelt d) = true <;>
      simp [hn, isOdd_spelt, isOdd_line, isIdentifierStart_line]

/-- Appending characters of names that are not odd changes nothing. -/
theorem isIdentifier_append (hs : NameText s) (ht : WordText t)
    (hodd : ∀ c ∈ t.toList, isOdd c = false) :
    isIdentifier (s ++ t) = true ↔ isIdentifier s = true := by
  obtain ⟨c, hc, -⟩ := hs.start
  rw [isIdentifier_iff hs, isIdentifier_iff (hs.append ht), String.toList_append,
    List.head?_append, hc, Option.some_or]
  simp only [List.mem_append, or_imp, forall_and, and_iff_left hodd]

theorem isIdentifier_candidate_iff (h : NameText base) (n : Nat) :
    isIdentifier (candidate base n) = true ↔ isIdentifier base = true := by
  cases n with
  | zero => rfl
  | succ n =>
    have hline : WordText "_" ∧ ∀ c ∈ "_".toList, isOdd c = false := by
      simp [WordText, isOdd_line, isWordChar]
    have hdigits : ∀ c ∈ (toString (n + 2)).toList, isOdd c = false := by
      intro c hc
      have hdigit : c ∈ Nat.toDigits 10 (n + 2) := by simpa using hc
      exact isOdd_of_isDigit (Nat.isDigit_of_mem_toDigits (by decide) (by decide) hdigit)
    exact (isIdentifier_append (h.append hline.1) (wordText_repr (n + 2)) hdigits).trans
      (isIdentifier_append h hline.1 hline.2)

/-- No member name is empty. It is an identifier exactly if the label of its choice is spellable,
whatever number stands behind it to tell it from earlier ones. So all the names of an enum are
identifiers exactly if all labels are spellable. -/
theorem isIdentifier_name_iff (name : String) (choices : List Choice) :
    let members := (EnumDecl.ofChoices name choices).members
    (∀ m ∈ members, m.name ≠ "") ∧
    (∀ (i : Nat) (c : Choice), choices[i]? = some c → ∃ m : Member, members[i]? = some m ∧
      (isIdentifier m.name = true ↔ Spellable c.label)) ∧
    ((∀ m ∈ members, isIdentifier m.name = true) ↔ ∀ c ∈ choices, Spellable c.label) := by
  intro members
  have hname : ∀ (i : Nat) (c : Choice), choices[i]? = some c → ∃ m : Member, members[i]? = some m ∧
      (isIdentifier m.name = true ↔ Spellable c.label) := by
    intro i c hc
    obtain ⟨m, hm, -, n, -, hfirst⟩ := firstFree_of_getElem? hc
    refine ⟨m, hm, ?_⟩
    rw [hfirst.eq, isIdentifier_candidate_iff (nameText_memberName c.label),
      isIdentifier_memberName_iff]
  refine ⟨?_, hname, ?_⟩
  · intro m hm hempty
    obtain ⟨c, hc, -⟩ := (nameText_of_mem_membersFrom hm).start
    simp [hempty] at hc
  · constructor
    · intro hall c hc
      obtain ⟨i, hi⟩ := List.mem_iff_getElem?.mp hc
      obtain ⟨m, hm, hiff⟩ := hname i c hi
      exact hiff.mp (hall m (List.mem_of_getElem? hm))
    · intro hall m hm
      obtain ⟨i, hi⟩ := List.mem_iff_getElem?.mp hm
      have hlt : i < choices.length := by
        simpa [members, EnumDecl.ofChoices, membersFrom_length] using
          (List.getElem?_eq_some_iff.mp hi).1
      obtain ⟨l, hl, hiff⟩ := hname i _ (List.getElem?_eq_getElem hlt)
      obtain rfl : l = m := Option.some.inj (hl.symm.trans hi)
      exact hiff.mpr (hall _ (List.getElem_mem hlt))

/-- Labels whose names are none: a square metre, a letter in a circle, and a sign that only follows
letters. -/
theorem names_not_identifiers :
    (EnumDecl.ofChoices "AreaEnum" [⟨"a", "m²"⟩, ⟨"b", "Ⓐ"⟩, ⟨"c", "\u0902a"⟩]).members.map
        (fun m : Member => (m.name, isIdentifier m.name)) =
      [("m²", false), ("Ⓐ", false), ("\u0902a", false)] := by
  decide +kernel

end SchemaInterfaces.TypeScript
