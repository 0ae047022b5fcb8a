import SchemaInterfaces.Json.Decode
import SchemaInterfaces.Schema.Entity

/-! Reading entities and their parts out of JSON. -/

namespace SchemaInterfaces.Schema
open Json Reading

def Source.decode : Decoder Source := Decoder.variant Source.named

def Kind.decode : Decoder Kind := fun v => do return Kind.ofName (← Decoder.text v)

namespace Relation

def shape : Shape Node Relation where
  title := "RelationRef"
  blank := { entity := "" }
  slots :=
    [Slot.mandatory "entity" Decoder.text fun entity r => { r with entity },
     Slot.optional "namespace" Decoder.text.optional fun ns r => { r with ns },
     Slot.optional "exported_name" Decoder.text.optional fun exportedName r =>
       { r with exportedName }]

def decode : Decoder Relation := Decoder.record shape

end Relation

namespace Backing

def shape : Shape Node Backing where
  title := "ComputedRef"
  blank := {}
  slots := [Slot.optional "method" Decoder.text.optional fun method _ => { method }]

def decode : Decoder Backing := Decoder.record shape

end Backing

namespace Choice

/-- How deep arrays and objects may lie inside one another in a whole text. -/
def depthLimit : Nat := 127

/-- The text of a value: strings and numbers stand for themselves, truth values and `null` are
spelled as the backend spells them. `depth` arrays and objects are open around the value. -/
def decodeValue (depth : Nat) (v : Node) : Except Problem String :=
  if v.readable (depthLimit - depth) then
    match v with
    | .text s => pure s
    | .number n => pure ((n.value?.map Number.text).getD "")
    | .boolean b => pure (if b then "True" else "False")
    | .null => pure "None"
    | _ => throw (.mismatch (.noVariant "RawChoiceValue"))
  else throw .malformed

/-- A pair of value and label, with `depth` arrays and objects open around it. -/
def decode (depth : Nat) : Decoder Choice := fun v => do
  let (value, label) ← Decoder.pair (decodeValue (depth + 1)) Decoder.text v
  return ⟨value, label⟩

end Choice

namespace Field

/-- A field, with `depth` arrays and objects open around it. -/
def shape (depth : Nat) : Shape Node Field where
  title := "FieldDescriptor"
  blank := { name := "", kind := .other "" }
  slots :=
    [Slot.mandatory "name" Decoder.text fun name f => { f with name },
     Slot.mandatory "kind" Kind.decode fun kind f => { f with kind },
     Slot.optional "nullable" Decoder.boolean fun nullable f => { f with nullable },
     Slot.optional "many" Decoder.boolean fun many f => { f with many },
     Slot.optional "relation" Relation.decode.optional fun relation f => { f with relation },
     Slot.optional "choices" (Decoder.list (Choice.decode (depth + 2))) fun choices f =>
       { f with choices },
     Slot.optional "computed" Backing.decode.optional fun computed f => { f with computed }]

def decode (depth : Nat) : Decoder Field := Decoder.record (shape depth)

end Field

namespace Method

def shape : Shape Node Method where
  title := "MethodDescriptor"
  blank := { name := "" }
  slots :=
    [Slot.mandatory "name" Decoder.text fun name m => { m with name },
     Slot.optional "return_annotation" Decoder.text.optional fun returnAnnotation m =>
       { m with returnAnnotation },
     Slot.optional "source" Decoder.text.optional fun source m => { m with source }]

def decode : Decoder Method := Decoder.record shape

end Method

namespace Entity

/-- An entity, with `depth` arrays and objects open around it. -/
def shape (depth : Nat) : Shape Node Entity where
  title := "EntityDescriptor"
  blank := { name := "" }
  slots :=
    [Slot.mandatory "name" Decoder.text fun name e => { e with name },
     Slot.optional "namespace" Decoder.text fun ns e => { e with ns },
     Slot.optional "source" Source.decode fun source e => { e with source },
     Slot.optional "fields" (Decoder.list (Field.decode (depth + 2))) fun fields e =>
       { e with fields },
     Slot.optional "methods" (Decoder.list Method.decode) fun methods e => { e with methods }]

def decode (depth : Nat) : Decoder Entity := Decoder.record (shape depth)

end Entity

end SchemaInterfaces.Schema
