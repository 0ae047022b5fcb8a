import SchemaInterfaces.Command.Run

/-! The program: what a command needs to know is read off the disk, and what it changed is written
back. -/

namespace SchemaInterfaces.Main
open Disk

def placeOf (loc : Location) : String := "/" ++ "/".intercalate loc

/-- Where a path leads if no folder on the way is a link. -/
def locationOf (here : Location) (p : Path) : Location :=
  let enter (loc : Location) (name : String) : Location :=
    if name = "." then loc else if name = ".." then loc.dropLast else loc ++ [name]
  p.names.foldl enter (if p.isAbsolute then [] else here)

def contentOf (bytes : ByteArray) : Content :=
  match String.fromUTF8? bytes with
  | some s => .text s
  | none => .binary bytes.toList

/-- Takes in what is at a location and, if `deep`, all that is below. -/
partial def gather (deep : Bool) (t : Tree) (loc : Location) : IO Tree := do
  let found ← try some <$> IO.FS.realPath (placeOf loc) catch _ => pure none
  let some place := found | return t
  if ← place.isDir then
    let t := t.put loc .folder
    if deep then
      (← place.readDir).foldlM (fun t e => gather true t (loc ++ [e.fileName])) t
    else return t
  else if ← place.pathExists then return t.put loc (.file (contentOf (← IO.FS.readBinFile place)))
  else return t

/-- Takes in the folders that a path goes through, what is there, and all that is below. -/
def survey (t : Tree) (p : Path) : IO Tree := do
  let loc := locationOf t.here p
  let t ← (List.range loc.length).foldlM (fun t n => gather false t (loc.take n)) t
  gather true t loc

/-- The variables that a text asks for, as the process has them. No file `.env` adds to them. -/
def environmentFor (text : String) : IO Environment := do
  let names := (Placeholders.names text.toList).map String.ofList
  let values ← names.mapM fun name => do return (name, ← IO.getEnv name)
  return fun name => (values.lookup name).bind id

/-- Everything that a command may look at, and the environment. -/
def prepare (c : Command) (t : Tree) : IO (Environment × Tree) := do
  match c with
  | .setUp s => return (fun _ => none, ← survey t s.file)
  | .exportAll e =>
    let t ← survey t e.config
    let env ← environmentFor ((t.readText e.config).toOption.getD "")
    match Settings.load env t e.config with
    | .error _ => return (env, t)
    | .ok s =>
      let s := e.override s.exported
      return (env, ← survey (← survey t ⟨s.outDir⟩) ⟨s.schemaDir⟩)

/-- Makes and writes what is not as it was. -/
def commit (before after : Tree) : IO Unit :=
  after.entries.forM fun (loc, e) => do
    if before.entry? loc ≠ some e then
      match e with
      | .folder => IO.FS.createDirAll (placeOf loc)
      | .file (.text s) => IO.FS.writeFile (placeOf loc) s
      | .file (.binary bytes) => IO.FS.writeBinFile (placeOf loc) ⟨bytes.toArray⟩

def helpText : String :=
  "Export backend models and serializers to TypeScript interfaces.\n\n" ++
  "  export [-c FILE] [-o DIR] [-e NAMESPACE...] [-l] [-s SOURCE] [--schema DIR] [-y]\n" ++
  "  init [-n NAME] [--force] [DIR]\n" ++
  "  help [COMMAND]\n"

def answer (u : Command.Usage) : IO UInt32 := do
  match u with
  | .version => IO.print u.output
  | .help => IO.print helpText
  | _ => IO.eprint helpText
  return u.code.toUInt32

def carryOut (c : Command) : IO UInt32 := do
  let here := (Disk.Path.mk (← IO.currentDir).toString).names
  let (env, t) ← prepare c ⟨[], here⟩
  let (result, after) := c.run env t
  commit t after
  match result with
  | .ok said =>
    IO.print said
    return 0
  | .error failure =>
    failure.chain.forM fun line => IO.eprintln line
    return 1

end SchemaInterfaces.Main

def main (arguments : List String) : IO UInt32 :=
  match SchemaInterfaces.Command.ofArguments arguments with
  | .error u => SchemaInterfaces.Main.answer u
  | .ok c => SchemaInterfaces.Main.carryOut c
