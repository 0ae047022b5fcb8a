import SchemaInterfaces.Schema.Catalog
import SchemaInterfaces.Schema.Decode

/-! Schema documents: the entities of one namespace and one source, written as JSON. -/

namespace SchemaInterfaces.Schema
open Json Reading

structure Document where
  ns : String
  source : Source := .models
  /-- Entities without a field `id` get one. -/
  autoId : Bool := true
  entities : List Entity := []
deriving Repr, DecidableEq

/-- Why the entities of a document cannot be taken in. -/
inductive DocumentError where
  | unreadable (p : Problem)
  | blankNamespace
  /-- An entity without a name, in a document of that namespace. -/
  | unnamedEntity (ns : String)
deriving Repr, DecidableEq

namespace DocumentError

/-- The wording; nothing for a text that is not well formed. -/
def message? : DocumentError → Option String
  | unreadable p => p.message?.map ("Serialization error: " ++ ·)
  | blankNamespace => some "Invalid descriptor: document namespace is empty"
  | unnamedEntity ns => some s!"Invalid descriptor: entity without a name in namespace {ns}"

end DocumentError

namespace Document

def shape : Shape Node Document where
  title := "SchemaDocument"
  blank := { ns := "" }
  slots :=
    [Slot.mandatory "namespace" Decoder.text fun ns d => { d with ns },
     Slot.optional "source" Source.decode fun source d => { d with source },
     Slot.optional "auto_id" Decoder.boolean fun autoId d => { d with autoId },
     Slot.optional "entities" (Decoder.list (Entity.decode 2)) fun entities d =>
       { d with entities }]

def ofText (text : String) : Except Problem Document := (Decoder.record shape).ofText text

variable (d : Document)

/-- An entity with all that it takes over from its document. -/
def complete (e : Entity) : Entity :=
  let e := { e with ns := if e.ns = "" then Text.trim d.ns else e.ns, source := d.source }
  if d.autoId then e.withPrimaryKey else e

/-- Completes an entity if it has a name. -/
def accept (e : Entity) : Except DocumentError Entity :=
  if Text.trim e.name = "" then .error (.unnamedEntity (Text.trim d.ns)) else .ok (d.complete e)

/-- The entities that the document contributes to a catalog of the given source. -/
def entitiesFor (source : Source) : Except DocumentError (List Entity) :=
  if Text.trim d.ns = "" then .error .blankNamespace
  else if d.source ≠ source then .ok []
  else d.entities.mapM d.accept

end Document

namespace Catalog

/-- Reads a document and registers its entities: the number of them, or why there are none, and the
catalog afterwards. -/
def load (source : Source) (text : String) (c : Catalog) : Except DocumentError Nat × Catalog :=
  match Document.ofText text with
  | .error p => (.error (.unreadable p), c)
  | .ok d =>
    match d.entitiesFor source with
    | .error e => (.error e, c)
    | .ok es => (.ok es.length, c.registerAll es)

theorem load_error {source : Source} {text : String} {c c' : Catalog} {e : DocumentError}
    (h : c.load source text = (.error e, c')) : c' = c := by
  unfold load at h
  split at h
  · exact ((Prod.mk.inj h).2).symm
  · split at h
    · exact ((Prod.mk.inj h).2).symm
    · cases (Prod.mk.inj h).1

end Catalog

end SchemaInterfaces.Schema
