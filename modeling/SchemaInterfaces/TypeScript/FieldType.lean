import SchemaInterfaces.TypeScript.Enum
import SchemaInterfaces.TypeScript.Reference
import SchemaInterfaces.TypeScript.ReturnType

/-! The type of a field, and the declaration that it needs. -/

namespace SchemaInterfaces.TypeScript
open Schema

/-- What a file must hold besides the interface for a type to be usable. -/
inductive Requirement where
  | imported (i : Import)
  | declared (d : EnumDecl)
deriving Repr, DecidableEq

structure FieldType where
  expr : String
  requires : Option Requirement := none
deriving Repr, DecidableEq

/-- Nothing is known of the value. This is a matter of the expression alone. -/
def FieldType.isFallback (t : FieldType) : Bool := t.expr == anyType

/-- The type of a kind that needs no context. Dates travel as strings. -/
def scalarType? : Kind → Option String
  | .text | .dateTime | .date | .uuid => some "string"
  | .integer | .decimal => some "number"
  | .boolean => some "boolean"
  | .json => some mappingType
  | .file => some "File"
  | .toOne | .toMany | .choice | .computed | .other _ => none

def listOf (expr : String) : String := expr ++ "[]"

/-- The type of a reference, or of a list of such. -/
def Reference.fieldType (r : Reference) (many : Bool) : FieldType where
  expr := if many then listOf r.name else r.name
  requires := r.imported.map .imported

/-- The type of a field of `owner`. Choices come before the kind. -/
def fieldType (infer : Inferrer) (owner : Entity) (f : Field) : Except MissingTarget FieldType :=
  if f.hasChoices then
    let d := EnumDecl.ofChoices (enumName owner.name f.name) f.choices
    .ok ⟨d.name, some (.declared d)⟩
  else
    match scalarType? f.kind with
    | some expr => .ok { expr }
    | none =>
      match f.kind with
      | .toOne => (·.fieldType f.many) <$> referenceOf owner f
      | .toMany => (·.fieldType true) <$> referenceOf owner f
      | .computed => .ok { expr := computedType infer owner f }
      | _ => .ok { expr := anyType }

end SchemaInterfaces.TypeScript
