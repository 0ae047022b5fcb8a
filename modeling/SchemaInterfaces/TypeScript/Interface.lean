import SchemaInterfaces.TypeScript.Fallbacks
import SchemaInterfaces.TypeScript.FieldType

/-! The file of one entity: imports, enums and the interface. -/

namespace SchemaInterfaces.TypeScript
open Schema

/-- Puts a text into an ascending list without repetition. -/
def insertSorted (s : String) : List String → List String
  | [] => [s]
  | t :: rest =>
    if s < t then s :: t :: rest
    else if s = t then t :: rest
    else t :: insertSorted s rest

def sortedSet (ss : List String) : List String := ss.foldr insertSorted []

structure Interface where
  name : String
  /-- Rendered imports, ascending, each once. -/
  imports : List String := []
  /-- Rendered enums, ascending, each once. -/
  enums : List String := []
  /-- Names and types of the fields, in order. -/
  fields : List (String × String) := []
deriving Repr, DecidableEq

namespace Interface

/-- Adds what the type of a field requires. -/
def require (u : Interface) : Option Requirement → Interface
  | none => u
  | some (.imported i) => { u with imports := insertSorted i.render u.imports }
  | some (.declared d) => { u with enums := insertSorted d.render u.enums }

def addField (u : Interface) (name : String) (t : FieldType) : Interface :=
  let u := u.require t.requires
  { u with fields := u.fields ++ [(name, t.expr)] }

/-- A block of declarations, with an empty line after it unless there is none. -/
def block (separator : String) (items : List String) : String :=
  if items.isEmpty then "" else separator.intercalate items ++ "\n\n"

def fieldLine (f : String × String) : String := "  " ++ f.1 ++ ": " ++ f.2 ++ ";\n"

def render (u : Interface) : String :=
  block "\n" u.imports ++ block "\n\n" u.enums ++
    "export interface " ++ u.name ++ " \x7b\n" ++ String.join (u.fields.map fieldLine) ++ "\x7d\n\n"

/-- Adds fields of `owner` one by one, up to the first that leads nowhere, and notes those whose
type is not known. -/
def addFields (infer : Inferrer) (owner : Entity) :
    List Field → Interface → Fallbacks → Except MissingTarget (Interface × Fallbacks)
  | [], u, b => .ok (u, b)
  | f :: rest, u, b => do
    let t ← fieldType infer owner f
    let b := if t.isFallback then b.record (fieldPath owner.ns owner.name f.name) else b
    addFields infer owner rest (u.addField f.name t) b

/-- The interface of an entity, and its fields whose type is not known. -/
def ofEntity (infer : Inferrer) (e : Entity) : Except MissingTarget (Interface × Fallbacks) :=
  addFields infer e e.fields { name := e.exportedName } {}

/-- The interface of an entity in a run, its fields whose type is not known being noted behind those
noted before. An entity that leads nowhere leaves no note. -/
def ofEntityAfter (infer : Inferrer) (e : Entity) (noted : Fallbacks) :
    Except MissingTarget Interface × Fallbacks :=
  match ofEntity infer e with
  | .ok (u, b) => (.ok u, noted.append b)
  | .error cause => (.error cause, noted)

end Interface

end SchemaInterfaces.TypeScript
