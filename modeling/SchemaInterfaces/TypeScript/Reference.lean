import SchemaInterfaces.Schema.Entity

/-! References from one interface to another: the name that is used, and the import that binds it.
-/

namespace SchemaInterfaces.TypeScript
open Schema

structure Import where
  name : String
  path : String
deriving Repr, DecidableEq

def Import.render (i : Import) : String :=
  "import \x7b " ++ i.name ++ " \x7d from \"" ++ i.path ++ "\";"

/-- The name of a type, and its import unless the file itself declares it. -/
structure Reference where
  name : String
  imported : Option Import
deriving Repr, DecidableEq

/-- The path from a file of namespace `current` to the file of `exported` in namespace `related`. -/
def importPath (exported related current : String) : String :=
  if related = current then "./" ++ exported ++ ".ts"
  else "../" ++ related.map (fun c => if c = '\\' then '/' else c) ++ "/" ++ exported ++ ".ts"

/-- A reference to `exported` of namespace `related` from the file that declares `owner` in
namespace `current`. -/
def Reference.resolve (exported related current owner : String) : Reference :=
  if exported = owner then ⟨exported, none⟩
  else ⟨exported, some ⟨exported, importPath exported related current⟩⟩

/-- A relation field that does not say which entity it leads to. -/
structure MissingTarget where
  entity : String
  field : String
deriving Repr, DecidableEq

def MissingTarget.message (e : MissingTarget) : String :=
  s!"Relation field {e.entity}.{e.field} has no target entity"

/-- A text that counts as given: not blank, and then trimmed. -/
def given? (s : String) : Option String :=
  let s := Text.trim s
  if s = "" then none else some s

/-- Where a relation leads, every default filled in. -/
structure Target where
  ns : String
  exported : String
deriving Repr, DecidableEq

/-- The target of a relation of `owner`, unless its entity is blank. An empty namespace and a blank
exported name count as absent. -/
def target? (owner : Entity) (r : Relation) : Option Target := do
  let entity ← given? r.entity
  return {
    ns := (r.ns.filter (· ≠ "")).getD owner.ns
    exported := (r.exportedName.bind given?).getD (owner.source.exportedName entity) }

/-- The reference that a relation field stands for. -/
def referenceOf (owner : Entity) (f : Field) : Except MissingTarget Reference :=
  match f.relation.bind (target? owner) with
  | none => .error ⟨owner.qualifiedName, f.name⟩
  | some t => .ok (.resolve t.exported t.ns owner.ns owner.exportedName)

end SchemaInterfaces.TypeScript
