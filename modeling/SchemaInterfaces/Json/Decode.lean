import SchemaInterfaces.Json.Node
import SchemaInterfaces.Reading.Shape

/-! Reading data out of JSON. A reader goes through a value from left to right and stops at the
first problem; what a break in the text hides comes after all that stands before it. -/

namespace SchemaInterfaces.Json
open Reading

abbrev Decoder (α : Type) := Node → Except Problem α

namespace Node

/-- How a message names the value. Strings and numbers are read to the end first. -/
def found : Node → Except Problem Found
  | null => pure .null
  | boolean b => pure (.boolean b)
  | number n =>
    match n.value? with
    | some (.integer i) => pure (.integer i)
    | some x => pure (.real x.text)
    | none => throw .malformed
  | text s => pure (.text s)
  | array _ _ => pure .sequence
  | object _ _ => pure .map
  | unpaired | broken => throw .malformed

/-- The value is not of the kind that its place asks for. -/
def reject {α : Type} (v : Node) (wanted : String) : Except Problem α := do
  Problem.wrongType (← v.found) wanted

/-- The value can be taken in as it stands, whatever it is, with at most `depth` arrays and objects
inside one another. -/
def readable : Nat → Node → Bool
  | _, null | _, boolean _ | _, text _ => true
  | _, number n => n.value?.isSome
  | _, unpaired | _, broken => false
  | 0, array _ _ | 0, object _ _ => false
  | depth + 1, array items closed => closed && items.all (readable depth)
  | depth + 1, object members closed =>
    closed && members.all fun (key, v) => key.isSome && readable depth v

end Node

namespace Decoder
variable {α : Type}

/-- A closing bracket must have been there. -/
def closing (closed : Bool) : Except Problem Unit := if closed then pure () else throw .malformed

def text : Decoder String
  | .text s => pure s
  | v => v.reject "a string"

def boolean : Decoder Bool
  | .boolean b => pure b
  | v => v.reject "a boolean"

/-- `null` stands for nothing. -/
def optional (d : Decoder α) : Decoder (Option α)
  | .null => pure none
  | v => some <$> d v

def list (d : Decoder α) : Decoder (List α)
  | .array items closed => do
    let xs ← items.mapM d
    closing closed
    pure xs
  | v => v.reject "a sequence"

def pair {β : Type} (first : Decoder α) (second : Decoder β) : Decoder (α × β)
  | .array items closed =>
    match items with
    | [] => do
      closing closed
      throw (.mismatch (.wrongLength 0 "a tuple of size 2"))
    | [v] => do
      let _ ← first v
      closing closed
      throw (.mismatch (.wrongLength 1 "a tuple of size 2"))
    | v :: w :: rest => do
      let x ← first v
      let y ← second w
      closing (closed && rest.isEmpty)
      pure (x, y)
  | v => v.reject "a tuple of size 2"

/-- One of some names, which may also be the only key of an object, with the value `null`. -/
def variant (known : List (String × α)) : Decoder α
  | .text s => named s
  | .object ((some s, v) :: rest) closed => do
    let x ← named s
    match v with
    | .null => pure ()
    | _ => v.reject "unit"
    closing (closed && rest.isEmpty)
    pure x
  | _ => throw .malformed
where
  named (s : String) : Except Problem α :=
    match known.lookup s with
    | some x => pure x
    | none => throw (.mismatch (.unknownVariant s (known.map (·.1))))

/-- Reads the members of an object into a record. Of two members with one name the second is the
problem; names that the record does not have are passed over. -/
def members (s : Shape Node α) : List (Option String × Node) → List String → α →
    Except Problem (List String × α)
  | [], seen, x => pure (seen, x)
  | (none, _) :: _, _, _ => throw .malformed
  | (some name, v) :: rest, seen, x =>
    match s.slot? name with
    | none => if v.intact then members s rest seen x else throw .malformed
    | some slot =>
      if seen.contains name then throw (.mismatch (.duplicateField name))
      else do members s rest (name :: seen) (← slot.store v x)

/-- Reads a list of values into the fields of a record, in order. -/
def items : List (Slot Node α) → List Node → α → Except Problem α
  | _, [], x => pure x
  | [], _ :: _, _ => throw .malformed
  | slot :: slots, v :: rest, x => do items slots rest (← slot.store v x)

/-- A record, written as an object or as the list of its values. -/
def record (s : Shape Node α) : Decoder α
  | .object ms closed => do
    let (seen, x) ← members s ms [] s.blank
    closing closed
    match s.missing? seen with
    | some slot => throw (.mismatch (.missingField slot.name))
    | none => pure x
  | .array vs closed => do
    let x ← items s.slots vs s.blank
    closing closed
    match s.missing? ((s.slots.take vs.length).map (·.name)) with
    | some _ => throw (.mismatch (.wrongLength vs.length s.wantedLength))
    | none => pure x
  | v => v.reject s.wantedType

/-- Reads a whole text: after the value only blanks may follow. -/
def ofText (d : Decoder α) (s : String) : Except Problem α := do
  let source := Source.ofText s
  let x ← d source.root
  closing source.alone
  pure x

end Decoder

end SchemaInterfaces.Json
