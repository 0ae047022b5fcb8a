import SchemaInterfaces.Disk.Tree
import SchemaInterfaces.Settings.Basic
import SchemaInterfaces.Settings.Placeholders
import SchemaInterfaces.Toml.Decode

/-! Reading settings. Every table and every value may be left out. -/

namespace SchemaInterfaces

/-- Why there are no settings. -/
inductive SettingsError where
  | unreadable (fault : Disk.Fault)
  | invalid (p : Reading.Problem)
deriving Repr, DecidableEq

namespace SettingsError

/-- The wording without what is special about the text. -/
def summary : SettingsError → String
  | unreadable fault => "Configuration error: Failed to read config file: " ++ fault.message
  | invalid _ => "Configuration error: Failed to parse config"

/-- The whole wording; nothing for a text that is not well formed. -/
def message? : SettingsError → Option String
  | e@(unreadable _) => some e.summary
  | e@(invalid p) => p.message?.map fun m => e.summary ++ ": " ++ m

end SettingsError

namespace Settings
open Reading Toml

def Project.shape : Shape Node Project where
  title := "ProjectConfig"
  blank := {}
  slots := [.optional "name" Decoder.text fun name p => { p with name }]

def Export.shape : Shape Node Export where
  title := "ExportConfig"
  blank := {}
  slots :=
    [.optional "schema_dir" Decoder.text fun schemaDir e => { e with schemaDir },
     .optional "outdir" Decoder.text fun outDir e => { e with outDir },
     .optional "source" (Decoder.variant Schema.Source.named) fun source e => { e with source },
     .optional "exclude" Decoder.text.list fun exclude e => { e with exclude },
     .optional "logs" Decoder.boolean fun logs e => { e with logs }]

def Logging.shape : Shape Node Logging where
  title := "LoggingConfig"
  blank := {}
  slots :=
    [.optional "level" Decoder.text fun level l => { l with level },
     .optional "json_format" Decoder.boolean fun jsonFormat l => { l with jsonFormat }]

def shape : Shape Node Settings where
  title := "TsExportConfig"
  blank := {}
  slots :=
    [.optional "project" (Decoder.record Project.shape) fun project s => { s with project },
     .optional "export" (Decoder.record Export.shape) fun exported s => { s with exported },
     .optional "logging" (Decoder.record Logging.shape) fun logging s => { s with logging }]

/-- Reads settings. Placeholders are filled in before anything else, wherever they stand. -/
def ofText (env : Environment) (s : String) : Except Problem Settings :=
  (Decoder.record shape).ofText (Placeholders.substitute env s)

def ofFile (env : Environment) (t : Disk.Tree) (p : Disk.Path) : Except SettingsError Settings :=
  match t.readText p with
  | .error fault => .error (.unreadable fault)
  | .ok s => (ofText env s).mapError .invalid

/-- The settings of a file, or the ordinary ones if there is no such file. -/
def load (env : Environment) (t : Disk.Tree) (p : Disk.Path) : Except SettingsError Settings :=
  if t.has p then ofFile env t p else .ok {}

end Settings

end SchemaInterfaces
