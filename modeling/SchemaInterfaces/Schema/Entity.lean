import SchemaInterfaces.Schema.Field
import SchemaInterfaces.Schema.Source

/-! Entities: one model or serializer with its fields and methods. -/

namespace SchemaInterfaces.Schema

/-- What is known of a method without running it. -/
structure Method where
  name : String
  returnAnnotation : Option String := none
  source : Option String := none
deriving Repr, DecidableEq

/-- The declared return annotation, trimmed. One without any text counts as none. -/
def Method.annotation? (m : Method) : Option String :=
  (m.returnAnnotation.map Text.trim).filter (· ≠ "")

structure Entity where
  name : String
  ns : String := ""
  source : Source := .models
  fields : List Field := []
  methods : List Method := []
deriving Repr, DecidableEq

namespace Entity
variable (e : Entity)

def withSource (source : Source) : Entity := { e with source }

def addField (f : Field) : Entity := { e with fields := e.fields ++ [f] }

def addMethod (m : Method) : Entity := { e with methods := e.methods ++ [m] }

/-- Puts the implicit integer key `id` in front unless a field has that name. -/
def withPrimaryKey : Entity :=
  if e.fields.any (·.name == "id") then e
  else { e with fields := { name := "id", kind := .integer } :: e.fields }

/-- The name of the interface, and of its file. -/
def exportedName : String := e.name

/-- The key of the entity in a catalog. -/
def qualifiedName : String := e.ns ++ "." ++ e.name

/-- The first method of that name. -/
def method? (name : String) : Option Method := e.methods.find? (·.name == name)

end Entity

end SchemaInterfaces.Schema
