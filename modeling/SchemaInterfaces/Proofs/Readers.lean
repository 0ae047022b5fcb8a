import Mathlib.Data.List.Basic
import SchemaInterfaces.Text.Split

/-! Readers of texts, and what it means that a reader finds a value in front of any text. -/
namespace SchemaInterfaces.Text

/-- Reads a value off the start of a text, if it can, and gives what follows it. -/
abbrev Reader := StateT (List Char) Option

variable {α β : Type}

namespace Reader

/-- The rest of the text is decided by what can be said without it. -/
def lift (answer : Option α) : Reader α := fun s => answer.map (·, s)

/-- Reads just this. -/
def exactly (text : List Char) : Reader Unit := fun s => (text.isPrefixOf? s).map ((), ·)

/-- Reads up to the first `c`, and over it. -/
def upTo (c : Char) : Reader (List Char) := fun s =>
  match cut (· == c) s with
  | (before, some rest) => some (before, rest)
  | (_, none) => none

/-- Reads a line and gives what it has between its opening and its closing. -/
def line (opening closing : List Char) : Reader (List Char) := do
  exactly opening
  let rest ← upTo '\n'
  lift (closing.isSuffixOf? rest)

/-- Reads values one after the other until the text goes on with `stop`, and over that. -/
def many (r : Reader α) (stop s : List Char) : Option (List α × List Char) :=
  match stop.isPrefixOf? s with
  | some rest => some ([], rest)
  | none =>
    match r s with
    | none => none
    | some (a, rest) =>
      if rest.length < s.length then (many r stop rest).map fun (as, rest) => (a :: as, rest)
      else none
termination_by s.length

/-- Goes by how the text begins. -/
def branch (opening : List Char) (r q : Reader α) : Reader α := fun s =>
  if (opening.isPrefixOf? s).isSome then r s else q s

/-- Reads a whole text. -/
def whole? (r : Reader α) (text : String) : Option α :=
  match r text.toList with
  | some (a, []) => some a
  | _ => none

end Reader

/-- The reader finds the value in that text, whatever follows it. -/
def Reads (r : Reader α) (a : α) (text : List Char) : Prop :=
  ∀ rest, r (text ++ rest) = some (a, rest)

variable {r : Reader α} {f : α → Reader β} {a : α} {b : β} {as : List α} {c : Char}
  {s t text stop : List Char} {p : α → List Char}

theorem isPrefixOf?_append (s t : List Char) : s.isPrefixOf? (s ++ t) = some t :=
  List.isPrefixOf?_eq_some_iff_append_eq.mpr rfl

namespace Reads

theorem whole? {text : String} (h : Reads r a text.toList) : r.whole? text = some a := by
  have hr := h []
  rw [List.append_nil] at hr
  rw [Reader.whole?, hr]

/-- A reader finds but one value in a text, so what it reads back is told apart by its text. -/
theorem inj {b : α} (ha : Reads r a s) (hb : Reads r b t) (h : s = t) : a = b := by
  subst h
  have hread := (ha []).symm.trans (hb [])
  exact (Prod.mk.inj (Option.some.inj hread)).1

theorem pure (a : α) : Reads (Pure.pure a) a [] := fun _ => rfl

theorem bind (ha : Reads r a s) (hb : Reads (f a) b t) : Reads (r >>= f) b (s ++ t) := by
  intro rest
  change (r (s ++ t ++ rest) >>= fun x => f x.1 x.2) = some (b, rest)
  rw [List.append_assoc, ha, Option.bind_eq_bind, Option.bind_some, hb]

/-- What is read may be put into another form at the end. -/
theorem bind_pure (ha : Reads r a s) (g : α → β) : Reads (r >>= fun x => Pure.pure (g x)) (g a) s := by
  have hread : Reads (r >>= fun x => Pure.pure (g x)) (g a) (s ++ []) := ha.bind (pure (g a))
  rwa [List.append_nil] at hread

theorem lift {answer : Option α} (h : answer = some a) : Reads (Reader.lift answer) a [] := by
  intro rest
  rw [Reader.lift, h]
  rfl

theorem exactly (text : List Char) : Reads (Reader.exactly text) () text := by
  intro rest
  rw [Reader.exactly, isPrefixOf?_append]
  rfl

theorem upTo (h : c ∉ s) : Reads (Reader.upTo c) s (s ++ [c]) := by
  intro rest
  rw [Reader.upTo, List.append_assoc, List.singleton_append,
    cut_append _ (beq_eq_false_of_notMem h) (beq_self_eq_true c)]

theorem line {opening closing : List Char} (hs : '\n' ∉ s) (hc : '\n' ∉ closing) :
    Reads (Reader.line opening closing) s (opening ++ (s ++ closing ++ ['\n'])) := by
  have hline : '\n' ∉ s ++ closing := fun h => (List.mem_append.mp h).elim hs hc
  have hclosing : closing.isSuffixOf? (s ++ closing) = some s :=
    List.isSuffixOf?_eq_some_iff_append_eq.mpr rfl
  have hrest : Reads (Reader.upTo '\n' >>= fun rest => Reader.lift (closing.isSuffixOf? rest)) s
      (s ++ closing ++ ['\n'] ++ []) := (upTo hline).bind (lift hclosing)
  rw [List.append_nil] at hrest
  exact (exactly opening).bind hrest

theorem branch_left {opening : List Char} {q : Reader α}
    (h : ∀ rest, (opening.isPrefixOf? (text ++ rest)).isSome) (ha : Reads r a text) :
    Reads (Reader.branch opening r q) a text := by
  intro rest
  rw [Reader.branch, if_pos (h rest), ha]

theorem branch_right {opening : List Char} {q : Reader α}
    (h : ∀ rest, opening.isPrefixOf? (text ++ rest) = none) (ha : Reads q a text) :
    Reads (Reader.branch opening r q) a text := by
  intro rest
  rw [Reader.branch, h rest, if_neg (by simp), ha]

/-- Values that are read one by one are read as a list, if none of them could be the stop. -/
theorem many (hread : ∀ a ∈ as, Reads r a (p a))
    (hgo : ∀ a ∈ as, ∀ rest, stop.isPrefixOf? (p a ++ rest) = none) :
    Reads (Reader.many r stop) as (as.flatMap p ++ stop) := by
  intro rest
  induction as with
  | nil =>
    rw [Reader.many, List.flatMap_nil, List.nil_append, isPrefixOf?_append]
  | cons a as ih =>
    have hfirst := hgo a List.mem_cons_self
    have hne : p a ≠ [] := by
      intro hempty
      have hstop := hfirst (stop ++ [])
      rw [hempty, List.nil_append, isPrefixOf?_append] at hstop
      contradiction
    have hlt : (as.flatMap p ++ stop ++ rest).length <
        (p a ++ (as.flatMap p ++ stop ++ rest)).length := by
      have hpos := List.length_pos_iff.mpr hne
      simp only [List.length_append]
      omega
    rw [List.flatMap_cons, List.append_assoc, List.append_assoc, ← List.append_assoc _ stop rest,
      Reader.many, hfirst, hread a List.mem_cons_self]
    simp only [hlt, if_true]
    rw [ih (fun b hb => hread b (List.mem_cons_of_mem a hb))
      fun b hb => hgo b (List.mem_cons_of_mem a hb)]
    rfl

end Reads

end SchemaInterfaces.Text
