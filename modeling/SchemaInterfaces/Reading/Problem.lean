import SchemaInterfaces.Text.Quoted

/-! Why a document could not be read as the data it should hold. -/

namespace SchemaInterfaces.Reading

/-- A value as a message names it. -/
inductive Found where
  | null
  | boolean (b : Bool)
  | integer (i : Int)
  | real (digits : String)
  | text (s : String)
  | sequence
  | map
deriving Repr, DecidableEq

namespace Found

def describe : Found → String
  | null => "null"
  | boolean b => s!"boolean `{b}`"
  | integer i => s!"integer `{i}`"
  | real digits => s!"floating point `{digits}`"
  | text s => "string " ++ Text.quote s
  | sequence => "sequence"
  | map => "map"

end Found

/-- A well-formed value that is not what its place asks for. -/
inductive Mismatch where
  | missingField (name : String)
  | duplicateField (name : String)
  | unknownVariant (name : String) (known : List String)
  | wrongType (found : Found) (wanted : String)
  | wrongLength (length : Nat) (wanted : String)
  /-- None of the forms that `title` may take. -/
  | noVariant (title : String)
deriving Repr, DecidableEq

namespace Mismatch

def message : Mismatch → String
  | missingField name => s!"missing field `{name}`"
  | duplicateField name => s!"duplicate field `{name}`"
  | unknownVariant name known =>
    s!"unknown variant `{name}`, expected " ++ " or ".intercalate (known.map fun k => s!"`{k}`")
  | wrongType found wanted => s!"invalid type: {found.describe}, expected {wanted}"
  | wrongLength length wanted => s!"invalid length {length}, expected {wanted}"
  | noVariant title => s!"data did not match any variant of untagged enum {title}"

end Mismatch

/-- The first problem in reading order. -/
inductive Problem where
  /-- The text is not well formed, or its form rules the value out before it is looked at. -/
  | malformed
  | mismatch (m : Mismatch)
deriving Repr, DecidableEq

namespace Problem

def wrongType {α : Type} (found : Found) (wanted : String) : Except Problem α :=
  .error (.mismatch (.wrongType found wanted))

/-- The wording, for those problems that have one of their own. -/
def message? : Problem → Option String
  | malformed => none
  | mismatch m => some m.message

end Problem

end SchemaInterfaces.Reading
