import SchemaInterfaces.Command.Basic
import SchemaInterfaces.Schema.Folder
import SchemaInterfaces.Settings.Load
import SchemaInterfaces.Settings.Render
import SchemaInterfaces.TypeScript.Export

/-! What the commands do to a disk, and what they say. -/

namespace SchemaInterfaces.Command
open Disk Schema TypeScript

/-- Why a command did not succeed. -/
inductive Failure where
  | settings (config : Path) (e : SettingsError)
  /-- The output folder is there, and nobody can be asked whether to use it. -/
  | unconfirmed
  | schema (e : MissingFolder)
  | output (fault : Fault)
  /-- A settings file that may not be replaced. -/
  | existing (file : Path)
  | setup (fault : Fault)
deriving Repr, DecidableEq

/-- What is reported, followed by its causes. -/
def Failure.chain : Failure → List String
  | settings config e => ["Failed to load " ++ config.text, e.message?.getD e.summary]
  | unconfirmed => ["Failed to read confirmation", "IO error: not a terminal"]
  | schema e => ["Failed to load schema from " ++ e.path.text, e.message]
  | output fault => ["IO error: " ++ fault.message, fault.message]
  | existing file => [file.text ++ " already exists. Use --force to replace it."]
  | setup fault => [fault.message]

/-- A command either says something or fails; either way it leaves a disk. -/
abbrev Run := Tree → Except Failure String × Tree

namespace Export
variable (e : Export)

/-- The settings with what the command line says instead. -/
def override (s : Settings.Export) : Settings.Export where
  schemaDir := e.schemaDir.getD s.schemaDir
  outDir := e.outDir.getD s.outDir
  source := e.source.getD s.source
  exclude := if e.exclude.isEmpty then s.exclude else e.exclude
  logs := e.logs || s.logs

def skippedText (skipped : List Skipped) : String :=
  if skipped.isEmpty then ""
  else
    s!"  ⚠ Skipped {skipped.length} entities:\n" ++
      "".intercalate (skipped.map fun s => s!"    → {s.entity}: " ++ s.cause.message ++ "\n")

def fallbacksText (logs : Bool) (b : Fallbacks) : String :=
  if logs then "\n" ++ b.summary ++ "\n"
  else if b.isEmpty then ""
  else s!"  ℹ {b.size} fields typed as 'any' (run with --logs for details)\n"

def reportText (s : Settings) (r : Report) : String :=
  s!"\n  ✓ Generated {r.written.length} interfaces for {s.project.name}\n" ++
    skippedText r.skipped ++ fallbacksText s.exported.logs r.fallbacks ++
    s!"  → Output: {s.exported.outDir}\n\n"

/-- Everything up to the first file that is written: the settings and the entities to export. -/
def prepare (env : Environment) (t : Tree) : Except Failure (Settings × Catalog) := do
  let s ← (Settings.load env t e.config).mapError (.settings e.config)
  let s := { s with exported := e.override s.exported }
  if t.has ⟨s.exported.outDir⟩ && !e.yes then throw .unconfirmed
  let c ← (Catalog.ofFolder t s.exported.source ⟨s.exported.schemaDir⟩).mapError .schema
  return (s, c.exclude s.exported.exclude)

def run (env : Environment) : Run := fun t =>
  match e.prepare env t with
  | .error failure => (.error failure, t)
  | .ok (s, c) =>
    match TypeScript.exportAll (diskOutput ⟨s.exported.outDir⟩) heuristic c t with
    | (.error fault, t) => (.error (.output fault), t)
    | (.ok r, t) => (.ok (reportText s r), t)

end Export

namespace Setup
variable (s : Setup)

def file : Path := s.dir.join ⟨Settings.fileName⟩

/-- The settings that are written. -/
def settings : Settings :=
  match s.project with
  | none => {}
  | some name => { project := { name } }

def run : Run := fun t =>
  if t.has s.file && !s.force then (.error (.existing s.file), t)
  else
    match t.makeFolders s.dir with
    | (.error fault, t) => (.error (.setup fault), t)
    | (.ok _, t) =>
      match t.writeFile s.file (.text s.settings.render) with
      | .error fault => (.error (.setup fault), t)
      | .ok t => (.ok s!"✓ Created {s.file.text}\n", t)

end Setup

end Command

namespace Command

def run (env : Environment) : Command → Run
  | exportAll e => e.run env
  | setUp s => s.run

end Command

end SchemaInterfaces
