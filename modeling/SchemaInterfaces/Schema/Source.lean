import SchemaInterfaces.Text.Blank
import SchemaInterfaces.Text.Case

/-! Which of a backend's two descriptions of its data an entity comes from. -/

namespace SchemaInterfaces.Schema

inductive Source where
  | models
  | serializers
deriving Repr, DecidableEq

/-- A text that names no source, trimmed and in lower case. -/
structure UnknownSource where
  text : String
deriving Repr, DecidableEq

def UnknownSource.message (e : UnknownSource) : String :=
  s!"unknown schema source '{e.text}', expected 'models' or 'serializers'"

namespace Source

def name : Source → String
  | models => "models"
  | serializers => "serializers"

def named : List (String × Source) := [("models", models), ("serializers", serializers)]

/-- Reads a source as a user types it: blanks around it and case do not count. -/
def ofText (text : String) : Except UnknownSource Source :=
  let text := Text.lowerText (Text.trim text)
  match named.lookup text with
  | some s => .ok s
  | none => .error ⟨text⟩

/-- The name under which the interface of an entity is exported by convention. A serializer is
called after its model. -/
def exportedName (s : Source) (entity : String) : String :=
  match s with
  | models => entity
  | serializers => entity ++ "Serializer"

end Source

end SchemaInterfaces.Schema
