import SchemaInterfaces.Schema.Field
import SchemaInterfaces.Text.Case
import SchemaInterfaces.Text.Word

/-! Enum declarations for fields with choices. -/

namespace SchemaInterfaces.TypeScript
open Schema Text

structure Member where
  name : String
  value : String
deriving Repr, DecidableEq

structure EnumDecl where
  name : String
  members : List Member
deriving Repr, DecidableEq

/-- The name of the enum of a field: the entity, the field with one capital, and `Enum`. -/
def enumName (entity field : String) : String :=
  entity ++ String.ofList (capitalize field.toList) ++ "Enum"

/-- A label as a member name: what is neither letter nor number becomes `_`, and a name that would
be empty or start with a number gets one in front. -/
def memberName (label : String) : String :=
  let name := (trimChars label.toList).map fun c => if isAlphanumeric c then c else '_'
  match name with
  | [] => "_"
  | c :: _ => String.ofList (if isNumeric c then '_' :: name else name)

/-- The first of `base_k`, `base_(k + 1)`, … that is not used, after at most `fuel` tries. -/
def firstUnused (used : List String) (base : String) : Nat → Nat → String
  | 0, k => s!"{base}_{k}"
  | fuel + 1, k =>
    let name := s!"{base}_{k}"
    if used.contains name then firstUnused used base fuel (k + 1) else name

/-- A name that is not used: the base, or the base with the least number from 2 on. One more try
than there are used names suffices. -/
def freshName (used : List String) (base : String) : String :=
  if used.contains base then firstUnused used base used.length 2 else base

/-- One member for each choice, in order, none with a name that is used before. -/
def membersFrom (used : List String) : List Choice → List Member
  | [] => []
  | c :: rest =>
    let name := freshName used (memberName c.label)
    ⟨name, c.value⟩ :: membersFrom (name :: used) rest

/-- A text between single quotes: quotes and backslashes in it stand behind a backslash. -/
def escapeQuoted : List Char → List Char
  | [] => []
  | c :: rest =>
    if c = '\\' ∨ c = '\'' then '\\' :: c :: escapeQuoted rest else c :: escapeQuoted rest

namespace EnumDecl

def ofChoices (name : String) (choices : List Choice) : EnumDecl := ⟨name, membersFrom [] choices⟩

def memberLine (m : Member) : String :=
  "  " ++ m.name ++ " = '" ++ String.ofList (escapeQuoted m.value.toList) ++ "',\n"

/-- The declaration, without a line end after it. -/
def render (d : EnumDecl) : String :=
  "export enum " ++ d.name ++ " \x7b\n" ++ String.join (d.members.map memberLine) ++ "\x7d"

end EnumDecl

theorem membersFrom_length (used : List String) (choices : List Choice) :
    (membersFrom used choices).length = choices.length := by
  induction choices generalizing used with
  | nil => rfl
  | cons c rest ih => simp [membersFrom, ih]

theorem membersFrom_values (used : List String) (choices : List Choice) :
    (membersFrom used choices).map (·.value) = choices.map (·.value) := by
  induction choices generalizing used with
  | nil => rfl
  | cons c rest ih => simp [membersFrom, ih]

end SchemaInterfaces.TypeScript
