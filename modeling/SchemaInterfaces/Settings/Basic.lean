import SchemaInterfaces.Schema.Source

/-! What a run is told by its settings file. -/

namespace SchemaInterfaces
open Schema

namespace Settings

structure Project where
  name : String := "backend"
deriving Repr, DecidableEq

/-- What is exported, and where to. -/
structure Export where
  schemaDir : String := "schema"
  outDir : String := "./typescript"
  source : Source := .serializers
  /-- Namespaces that are left out. -/
  exclude : List String := []
  /-- Whether a run lists the fields whose type it does not know. -/
  logs : Bool := false
deriving Repr, DecidableEq

structure Logging where
  level : String := "info"
  jsonFormat : Bool := false
deriving Repr, DecidableEq

/-- The name of the settings file. -/
def fileName : String := "tsexport.toml"

end Settings

structure Settings where
  project : Settings.Project := {}
  exported : Settings.Export := {}
  logging : Settings.Logging := {}
deriving Repr, DecidableEq

end SchemaInterfaces
