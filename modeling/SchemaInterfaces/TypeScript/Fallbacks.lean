import SchemaInterfaces.Schema.Entity

/-! The fields of a run whose type is not known. -/

namespace SchemaInterfaces.TypeScript
open Schema

/-- The full name of a field. -/
def fieldPath (ns entity field : String) : String := s!"{ns}.{entity}.{field}"

/-- Full names of fields, in the order in which they were met. -/
structure Fallbacks where
  fields : List String := []
deriving Repr, DecidableEq

namespace Fallbacks
variable (b : Fallbacks)

def record (path : String) : Fallbacks := ⟨b.fields ++ [path]⟩

def append (other : Fallbacks) : Fallbacks := ⟨b.fields ++ other.fields⟩

def size : Nat := b.fields.length

def isEmpty : Bool := b.fields.isEmpty

def summary : String :=
  if b.isEmpty then "No fields with 'any' type detected."
  else "\n".intercalate ("Fields with 'any' type detected:" :: b.fields)

end Fallbacks

end SchemaInterfaces.TypeScript
