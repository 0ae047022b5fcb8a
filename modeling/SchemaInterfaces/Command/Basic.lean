import SchemaInterfaces.Command.Arguments
import SchemaInterfaces.Disk.Path
import SchemaInterfaces.Settings.Basic

/-! The commands, and how they are given. -/

namespace SchemaInterfaces.Command
open Schema Disk

/-- Exporting interfaces. What is given here goes before what the settings say. -/
structure Export where
  config : Path := ⟨Settings.fileName⟩
  outDir : Option String := none
  exclude : List String := []
  logs : Bool := false
  source : Option Source := none
  schemaDir : Option String := none
  /-- Whether an output folder that is already there may be used. -/
  yes : Bool := false
deriving Repr, DecidableEq

/-- Making a settings file. -/
structure Setup where
  dir : Path := ⟨"."⟩
  project : Option String := none
  /-- Whether a settings file that is already there may be replaced. -/
  force : Bool := false
deriving Repr, DecidableEq

def helpOption {α : Type} : Opt α := ⟨"help", some 'h', .help⟩

/-- An option that stores its value as it is. -/
def storing {α : Type} (put : String → α → α) : Use α := .value fun v x => .ok (put v x)

def Export.grammar : Grammar Export where
  blank := {}
  options :=
    [helpOption,
     ⟨"config", some 'c', storing fun v e => { e with config := ⟨v⟩ }⟩,
     ⟨"outdir", some 'o', storing fun v e => { e with outDir := some v }⟩,
     ⟨"exclude", some 'e', .values fun vs e => { e with exclude := e.exclude ++ vs }⟩,
     ⟨"logs", some 'l', .flag fun e => { e with logs := true }⟩,
     ⟨"source", some 's', .value fun v e =>
       match Source.ofText v with
       | .ok s => .ok { e with source := some s }
       | .error _ => .error .invalidValue⟩,
     ⟨"schema", none, storing fun v e => { e with schemaDir := some v }⟩,
     ⟨"yes", some 'y', .flag fun e => { e with yes := true }⟩]

def Setup.grammar : Grammar Setup where
  blank := {}
  options :=
    [helpOption,
     ⟨"name", some 'n', storing fun v s => { s with project := some v }⟩,
     ⟨"force", none, .flag fun s => { s with force := true }⟩]
  positional := some fun v s => if v = "" then .error .missingValue else .ok { s with dir := ⟨v⟩ }

end Command

inductive Command where
  | exportAll (e : Command.Export)
  | setUp (s : Command.Setup)
deriving Repr, DecidableEq

namespace Command

def names : List String := ["export", "init", "help"]

/-- Help is asked for on a command by its name, and no command has others below it. -/
def helpOn : List String → Usage
  | [] => .help
  | [name] => if names.contains name then .help else .unknownCommand
  | _ => .unknownCommand

/-- Reads a command line, without the name of the program. -/
def ofArguments : List String → Except Usage Command
  | [] => .error .noCommand
  | a :: rest =>
    match Argument.of a with
    | .endOfOptions =>
      match rest with
      | [] => .error .noCommand
      | s :: _ => .error (if names.contains s then .unknownArgument else .unknownCommand)
    | .long name value =>
      if name ≠ "help" ∧ name ≠ "version" then .error .unknownArgument
      else if value.isSome then .error .surplusValue
      else .error (if name = "help" then .help else .version)
    | .short letters =>
      match letters with
      | 'h' :: _ => .error .help
      | 'V' :: _ => .error .version
      | _ => .error .unknownArgument
    | .plain "export" => do return exportAll (← Export.grammar.read rest)
    | .plain "init" => do return setUp (← Setup.grammar.read rest)
    | .plain "help" => .error (helpOn rest)
    | .plain _ => .error .unknownCommand

end Command

end SchemaInterfaces
