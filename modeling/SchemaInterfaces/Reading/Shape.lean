import SchemaInterfaces.Reading.Problem

/-! Records with named fields, described independently of the document format that they come from.
`ν` is the format's type of values. -/

namespace SchemaInterfaces.Reading

/-- One field of a record: its name, whether it must be given, and how a value is stored. -/
structure Slot (ν α : Type) where
  name : String
  required : Bool := false
  store : ν → α → Except Problem α

namespace Slot
variable {ν α β : Type}

/-- A field that may be left out. -/
def optional (name : String) (read : ν → Except Problem β) (put : β → α → α) : Slot ν α where
  name
  store v x := do return put (← read v) x

/-- A field that must be given. -/
def mandatory (name : String) (read : ν → Except Problem β) (put : β → α → α) : Slot ν α where
  name
  required := true
  store v x := do return put (← read v) x

end Slot

/-- A record: how messages call it, its value before any field is read, and its fields in the order
that a list of their values would have. -/
structure Shape (ν α : Type) where
  title : String
  blank : α
  slots : List (Slot ν α)

namespace Shape
variable {ν α : Type} (s : Shape ν α)

def slot? (name : String) : Option (Slot ν α) := s.slots.find? (·.name == name)

/-- The first field that must be given and is not among those seen. -/
def missing? (seen : List String) : Option (Slot ν α) :=
  s.slots.find? fun slot => slot.required && !seen.contains slot.name

def wantedType : String := "struct " ++ s.title

def wantedLength : String := s!"struct {s.title} with {s.slots.length} element" ++
  (if s.slots.length = 1 then "" else "s")

end Shape

end SchemaInterfaces.Reading
