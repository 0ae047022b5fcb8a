import SchemaInterfaces.Schema.Kind

/-! Fields of entities, and what they refer to. -/

namespace SchemaInterfaces.Schema

/-- The entity that a relation leads to. Without a namespace it is looked for in the owner's, and
without an exported name it is called by the convention of the owner's source. -/
structure Relation where
  entity : String
  ns : Option String := none
  exportedName : Option String := none
deriving Repr, DecidableEq

/-- A value that a field may take, and the label that people read. -/
structure Choice where
  value : String
  label : String
deriving Repr, DecidableEq

/-- The method behind a computed field, if it has a name of its own. -/
structure Backing where
  method : Option String := none
deriving Repr, DecidableEq

structure Field where
  name : String
  kind : Kind
  nullable : Bool := false
  many : Bool := false
  relation : Option Relation := none
  choices : List Choice := []
  computed : Option Backing := none
deriving Repr, DecidableEq

namespace Field
variable (f : Field)

def toOne (name : String) (r : Relation) : Field := { name, kind := .toOne, relation := some r }

def toMany (name : String) (r : Relation) : Field := { name, kind := .toMany, relation := some r }

def computedBy (name : String) (method : Option String) : Field :=
  { name, kind := .computed, computed := some { method } }

def withChoices (choices : List Choice) : Field := { f with choices }

def asNullable : Field := { f with nullable := true }

def asMany : Field := { f with many := true }

def hasChoices : Bool := !f.choices.isEmpty

/-- The method that computes the field, `get_` and the field's name unless another is given. -/
def methodName : String := (f.computed.bind (·.method)).getD ("get_" ++ f.name)

end Field

end SchemaInterfaces.Schema
