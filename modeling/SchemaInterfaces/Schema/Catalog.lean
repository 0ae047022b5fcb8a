import SchemaInterfaces.Schema.Entity
import Std.Data.TreeMap

/-! The entities of one run, in the order in which their names first arrived. -/

namespace SchemaInterfaces.Schema

/-- Entities in order, and the place of each qualified name. -/
structure Catalog where
  entities : List Entity
  index : Std.TreeMap String Nat

namespace Catalog

def empty : Catalog := ⟨[], ∅⟩

variable (c : Catalog)

def size : Nat := c.entities.length

/-- Adds an entity at the end, or puts it in the place of the one with its qualified name. -/
def register (e : Entity) : Catalog :=
  match c.index[e.qualifiedName]? with
  | some i => { c with entities := c.entities.set i e }
  | none => ⟨c.entities ++ [e], c.index.insert e.qualifiedName c.entities.length⟩

def registerAll (es : List Entity) : Catalog := es.foldl register c

def ofList (es : List Entity) : Catalog := empty.registerAll es

def get? (ns name : String) : Option Entity :=
  c.index[ns ++ "." ++ name]?.bind (c.entities[·]?)

/-- Drops the entities of the listed namespaces. -/
def exclude (spaces : List String) : Catalog :=
  if spaces.isEmpty then c else ofList (c.entities.filter fun e => !spaces.contains e.ns)

theorem registerAll_cons (e : Entity) (es : List Entity) :
    c.registerAll (e :: es) = (c.register e).registerAll es := rfl

end Catalog

end SchemaInterfaces.Schema
