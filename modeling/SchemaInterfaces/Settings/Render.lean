import SchemaInterfaces.Settings.Basic
import SchemaInterfaces.Toml.Quoted

/-! Settings as text: every value under its key, in three tables. -/

namespace SchemaInterfaces.Settings
open Toml

def stringText (s : String) : List Char := quoted s.toList

def booleanText (b : Bool) : List Char := if b then "true".toList else "false".toList

/-- A list of strings. From two on, each has a line of its own. -/
def listText : List String → List Char
  | [] => ['[', ']']
  | [s] => '[' :: stringText s ++ [']']
  | ss => ['[', '\n'] ++ ss.flatMap (fun s => "    ".toList ++ stringText s ++ [',', '\n']) ++ [']']

/-- A key and its value on a line. -/
def line (key : String) (value : List Char) : List Char :=
  key.toList ++ " = ".toList ++ value ++ ['\n']

def heading (name : String) : List Char := '[' :: name.toList ++ [']', '\n']

def Project.lines (p : Project) : List Char := heading "project" ++ line "name" (stringText p.name)

def Export.lines (e : Export) : List Char :=
  heading "export" ++ line "schema_dir" (stringText e.schemaDir) ++
    line "outdir" (stringText e.outDir) ++ line "source" (stringText e.source.name) ++
    line "exclude" (listText e.exclude) ++ line "logs" (booleanText e.logs)

def Logging.lines (l : Logging) : List Char :=
  heading "logging" ++ line "level" (stringText l.level) ++
    line "json_format" (booleanText l.jsonFormat)

def render (s : Settings) : String :=
  String.ofList
    (s.project.lines ++ ['\n'] ++ s.exported.lines ++ ['\n'] ++ s.logging.lines)

end SchemaInterfaces.Settings
