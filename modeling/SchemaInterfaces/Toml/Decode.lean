import SchemaInterfaces.Reading.Shape
import SchemaInterfaces.Toml.Document

/-! Reading data out of TOML. A document is well formed as a whole before any value is looked at. -/

namespace SchemaInterfaces.Toml
open Reading

abbrev Decoder (α : Type) := Node → Except Problem α

/-- How a message names the value. -/
def Node.found : Node → Found
  | scalar (.integer i) => .integer i
  | scalar (.real x) => .real x.text
  | scalar (.boolean b) => .boolean b
  | scalar .moment => .map
  | text s => .text (String.ofList s)
  | array _ | tables _ => .sequence
  | table _ _ => .map

namespace Decoder
variable {α : Type}

def text : Decoder String
  | .text s => pure (String.ofList s)
  | v => Problem.wrongType v.found "a string"

def boolean : Decoder Bool
  | .scalar (.boolean b) => pure b
  | v => Problem.wrongType v.found "a boolean"

/-- The items of an array, or the tables of a list. -/
def items? : Node → Option (List Node)
  | .array items => some items
  | .tables elements => some (elements.map (.table .header ·))
  | _ => none

def list (d : Decoder α) : Decoder (List α) := fun v =>
  match items? v with
  | some items => items.mapM d
  | none => Problem.wrongType v.found "a sequence"

/-- One of some names, which may also be the only key of a table, with nothing in its value. -/
def variant (known : List (String × α)) : Decoder α
  | .text s => named (String.ofList s)
  | .table _ [(name, v)] => do
    let x ← named name
    match v with
    | .array [] | .table _ [] => pure x
    | _ => throw .malformed
  | _ => throw .malformed
where
  named (s : String) : Except Problem α :=
    match known.lookup s with
    | some x => pure x
    | none => throw (.mismatch (.unknownVariant s (known.map (·.1))))

/-- Stores a value under a name; names that the record does not have are passed over. -/
def member (s : Shape Node α) (x : α) (m : String × Node) : Except Problem α :=
  match s.slot? m.1 with
  | some slot => slot.store m.2 x
  | none => pure x

/-- A record none of whose fields must be given, written as a table or as the list of its values.
A date has no member that a record could have. -/
def record (s : Shape Node α) : Decoder α := fun v =>
  match v, items? v with
  | .table _ members, _ => members.foldlM (member s) s.blank
  | .scalar .moment, _ => pure s.blank
  | _, some items => (s.slots.zip items).foldlM (fun x (slot, v) => slot.store v x) s.blank
  | _, none => Problem.wrongType v.found s.wantedType

/-- Reads a whole text. -/
def ofText (d : Decoder α) (s : String) : Except Problem α :=
  match Document.ofText? s with
  | some root => d root.node
  | none => throw .malformed

end Decoder

end SchemaInterfaces.Toml
