import SchemaInterfaces.Text.Blank

/-! The category of a field. -/

namespace SchemaInterfaces.Schema

inductive Kind where
  | text
  | integer
  | boolean
  | dateTime
  | date
  | decimal
  | uuid
  | json
  | file
  | toOne
  | toMany
  | choice
  | computed
  /-- A kind without rules of its own, kept by name. -/
  | other (name : String)
deriving Repr, DecidableEq

namespace Kind

/-- The canonical name. -/
def name : Kind → String
  | text => "text"
  | integer => "integer"
  | boolean => "boolean"
  | dateTime => "datetime"
  | date => "date"
  | decimal => "decimal"
  | uuid => "uuid"
  | json => "json"
  | file => "file"
  | toOne => "to_one"
  | toMany => "to_many"
  | choice => "choice"
  | computed => "computed"
  | other name => name

/-- Every name of a kind with rules of its own: the canonical names and the field classes of the
backends. -/
def known : List (String × Kind) :=
  [("text", text), ("CharField", text), ("TextField", text), ("EmailField", text),
   ("SlugField", text), ("URLField", text),
   ("integer", integer), ("IntegerField", integer), ("BigIntegerField", integer),
   ("SmallIntegerField", integer), ("PositiveIntegerField", integer),
   ("PositiveSmallIntegerField", integer), ("AutoField", integer), ("BigAutoField", integer),
   ("boolean", boolean), ("BooleanField", boolean),
   ("datetime", dateTime), ("DateTimeField", dateTime),
   ("date", date), ("DateField", date),
   ("decimal", decimal), ("DecimalField", decimal),
   ("uuid", uuid), ("UUIDField", uuid),
   ("json", json), ("JSONField", json),
   ("file", file), ("FileField", file), ("ImageField", file),
   ("to_one", toOne), ("foreign_key", toOne), ("one_to_one", toOne), ("ForeignKey", toOne),
   ("OneToOneField", toOne), ("PrimaryKeyRelatedField", toOne), ("NestedSerializer", toOne),
   ("to_many", toMany), ("many_to_many", toMany), ("ManyToManyField", toMany),
   ("ManyRelatedField", toMany), ("ListSerializer", toMany),
   ("choice", choice), ("ChoiceField", choice),
   ("computed", computed), ("SerializerMethodField", computed)]

/-- The kind that a name stands for. Blanks around the name do not count. -/
def ofName (name : String) : Kind :=
  let name := Text.trim name
  (known.lookup name).getD (other name)

/-- A field of this kind refers to another entity. -/
def isRelation : Kind → Bool
  | toOne | toMany => true
  | _ => false

def isOther : Kind → Bool
  | other _ => true
  | _ => false

end Kind

end SchemaInterfaces.Schema
