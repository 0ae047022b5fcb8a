import SchemaInterfaces.Json.Node
import SchemaInterfaces.Schema.Entity

/-! Entities and their parts as JSON. What is absent or empty is left out. -/

namespace SchemaInterfaces.Schema
open Json

/-- An object with these members. -/
def objectOf (members : List (String × Node)) : Node :=
  .object (members.map fun (key, v) => (some key, v)) true

def arrayOf (items : List Node) : Node := .array items true

/-- A member that is left out if there is no value. -/
def member? (key : String) (v : Option Node) : List (String × Node) := v.toList.map (key, ·)

/-- A member that is left out if the list is empty. -/
def members? {α : Type} (key : String) (encode : α → Node) (xs : List α) : List (String × Node) :=
  if xs.isEmpty then [] else [(key, arrayOf (xs.map encode))]

def Relation.encode (r : Relation) : Node :=
  objectOf ([("entity", .text r.entity)] ++ member? "namespace" (r.ns.map .text) ++
    member? "exported_name" (r.exportedName.map .text))

def Choice.encode (c : Choice) : Node := arrayOf [.text c.value, .text c.label]

def Backing.encode (b : Backing) : Node := objectOf (member? "method" (b.method.map .text))

def Field.encode (f : Field) : Node :=
  objectOf ([("name", .text f.name), ("kind", .text f.kind.name), ("nullable", .boolean f.nullable),
      ("many", .boolean f.many)] ++
    member? "relation" (f.relation.map Relation.encode) ++
    members? "choices" Choice.encode f.choices ++
    member? "computed" (f.computed.map Backing.encode))

def Method.encode (m : Method) : Node :=
  objectOf ([("name", .text m.name)] ++
    member? "return_annotation" (m.returnAnnotation.map .text) ++
    member? "source" (m.source.map .text))

def Entity.encode (e : Entity) : Node :=
  objectOf ([("name", .text e.name), ("namespace", .text e.ns), ("source", .text e.source.name),
      ("fields", arrayOf (e.fields.map Field.encode))] ++
    members? "methods" Method.encode e.methods)

end SchemaInterfaces.Schema
