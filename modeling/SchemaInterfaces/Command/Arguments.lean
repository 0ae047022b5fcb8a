import SchemaInterfaces.Text.Split

/-! Command lines: what the options of a command are, and reading arguments as uses of them. -/

namespace SchemaInterfaces.Command
open Text

/-- How arguments are answered that are no command to carry out. -/
inductive Usage where
  | help
  | version
  | noCommand
  | unknownCommand
  | unknownArgument
  /-- An option without its value, or an empty path. -/
  | missingValue
  | invalidValue
  /-- An option that may be given once. -/
  | repeatedOption
  /-- A value for an option that takes none. -/
  | surplusValue
deriving Repr, DecidableEq

namespace Usage

/-- Only asking for information is no mistake. -/
def code : Usage → Nat
  | help | version => 0
  | _ => 2

/-- What is said of the version. Help has no fixed wording. -/
def output : Usage → String
  | version => "tsexport 0.1.0\n"
  | _ => ""

end Usage

/-- One argument by its shape. -/
inductive Argument where
  /-- Two dashes: no option follows. -/
  | endOfOptions
  | long (name : String) (value : Option String)
  /-- Letters of options, perhaps with the value of the last one. -/
  | short (letters : List Char)
  | plain (s : String)
deriving Repr, DecidableEq

/-- A dash alone is no option. -/
def Argument.of (s : String) : Argument :=
  match s.toList with
  | ['-', '-'] => endOfOptions
  | '-' :: '-' :: rest =>
    let (name, value) := cut (· == '=') rest
    long (String.ofList name) (value.map String.ofList)
  | ['-'] => plain s
  | '-' :: letters => short letters
  | _ => plain s

/-- What an option does. -/
inductive Use (α : Type) where
  | help
  | flag (set : α → α)
  | value (store : String → α → Except Usage α)
  /-- One or more values, each time it is given. -/
  | values (store : List String → α → α)

structure Opt (α : Type) where
  long : String
  short : Option Char := none
  use : Use α

/-- What a command can be given. -/
structure Grammar (α : Type) where
  /-- The command without arguments. -/
  blank : α
  options : List (Opt α)
  /-- The one argument that is not an option, if there may be one. -/
  positional : Option (String → α → Except Usage α) := none

namespace Grammar
variable {α : Type} (g : Grammar α)

def long? (name : String) : Option (Opt α) := g.options.find? (·.long == name)

def short? (letter : Char) : Option (Opt α) := g.options.find? (·.short == some letter)

end Grammar

/-- Something whose values are stored only when the next thing comes. -/
inductive Pending (α : Type) where
  | option (o : Opt α) (values : List String)
  | positional (store : String → α → Except Usage α) (value : String)

/-- A command line as far as it was read. -/
structure Progress (α : Type) where
  command : α
  /-- The options that were given and may not be given again. -/
  given : List String := []
  pending : Option (Pending α) := none
  /-- Whether the positional argument was given. -/
  placed : Bool := false

namespace Progress
variable {α : Type} (p : Progress α)

/-- Marks an option as given. -/
def once (name : String) : Except Usage (Progress α) :=
  if p.given.contains name then .error .repeatedOption
  else .ok { p with given := name :: p.given }

/-- Gives an option its values. -/
def give (o : Opt α) (values : List String) : Except Usage (Progress α) :=
  match o.use, values with
  | .help, _ => .error .help
  | .flag set, _ => do
    let p ← p.once o.long
    return { p with command := set p.command }
  | .value store, [v] => do
    let p ← p.once o.long
    return { p with command := ← store v p.command }
  | .values store, _ :: _ => .ok { p with command := store values p.command }
  | .value _, _ | .values _, [] => .error .missingValue

/-- Stores what is pending. -/
def settle : Except Usage (Progress α) :=
  let q := { p with pending := none }
  match p.pending with
  | none => .ok q
  | some (.option o values) => q.give o values
  | some (.positional store v) => do return { q with command := ← store v q.command }

/-- Gives an option that is complete. -/
def react (o : Opt α) (values : List String) : Except Usage (Progress α) := do
  (← p.settle).give o values

/-- Starts an option whose values follow. -/
def await (o : Opt α) : Except Usage (Progress α) := do
  return { ← p.settle with pending := some (.option o []) }

/-- What is left of a short option after its letter, as a value. -/
def attached : List Char → String
  | '=' :: v | v => String.ofList v

/-- Letters of short options, one after the other. Letters after an option with a value are the
value. -/
def shorts (g : Grammar α) : List Char → Progress α → Except Usage (Progress α)
  | [], p => .ok p
  | c :: rest, p =>
    match g.short? c with
    | none => .error .unknownArgument
    | some o =>
      match o.use with
      | .help | .flag _ => do shorts g rest (← p.react o [])
      | .value _ | .values _ => if rest.isEmpty then p.await o else p.react o [attached rest]

def long (g : Grammar α) (name : String) (value : Option String) : Except Usage (Progress α) :=
  match g.long? name with
  | none => .error .unknownArgument
  | some o =>
    match o.use, value with
    | .help, some _ | .flag _, some _ => .error .surplusValue
    | .help, none | .flag _, none => p.react o []
    | .value _, some v | .values _, some v => p.react o [v]
    | .value _, none | .values _, none => p.await o

/-- An argument that is neither an option nor the value of one. -/
def position (g : Grammar α) (s : String) : Except Usage (Progress α) :=
  match g.positional with
  | none => .error .unknownArgument
  | some store =>
    if p.placed then .error .unknownArgument
    else do return { ← p.settle with pending := some (.positional store s), placed := true }

/-- An argument that is no option. -/
def plain (g : Grammar α) (s : String) : Except Usage (Progress α) :=
  match p.pending with
  | some (.option o values) =>
    match o.use, values with
    | .values _, _ | .value _, [] => .ok { p with pending := some (.option o (values ++ [s])) }
    | _, _ => p.position g s
  | _ => p.position g s

def read (g : Grammar α) : List String → Progress α → Except Usage (Progress α)
  | [], p => p.settle
  | a :: rest, p =>
    match Argument.of a with
    | .endOfOptions => do (← rest.foldlM (fun p s => p.position g s) p).settle
    | .long name value => do read g rest (← p.long g name value)
    | .short letters => do read g rest (← shorts g letters p)
    | .plain s => do read g rest (← p.plain g s)

end Progress

/-- Reads the arguments of a command. -/
def Grammar.read {α : Type} (g : Grammar α) (arguments : List String) : Except Usage α := do
  return (← Progress.read g arguments { command := g.blank }).command

end SchemaInterfaces.Command
