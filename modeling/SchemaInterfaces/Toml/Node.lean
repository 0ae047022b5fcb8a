import SchemaInterfaces.Keyed
import SchemaInterfaces.Toml.Scalar

/-! TOML documents as trees, and the places in them where something may still be added. -/

namespace SchemaInterfaces.Toml

/-- How a table came to be. -/
inductive Origin where
  /-- Written in braces. Nothing can be added. -/
  | inline
  /-- Opened by a header of its own. -/
  | header
  /-- Named on the way to a header further in. -/
  | implied
  /-- Named on the way to the key of a value. -/
  | dotted
deriving Repr, DecidableEq

inductive Node where
  | scalar (x : Scalar)
  | text (s : List Char)
  | array (items : List Node)
  | table (origin : Origin) (members : List (String × Node))
  /-- A list of tables, each opened by a header. -/
  | tables (elements : List (List (String × Node)))

/-- A key with the tables that it is reached through. -/
structure Key where
  through : List String
  name : String
deriving Repr, DecidableEq

/-- What a table has, in order. -/
structure Table where
  origin : Origin
  members : List (String × Node)

namespace Table

def node (t : Table) : Node := .table t.origin t.members

def empty (origin : Origin) : Table := ⟨origin, []⟩

variable (t : Table)

def get? (name : String) : Option Node := t.members.lookup name

def put (name : String) (v : Node) : Table := { t with members := Keyed.put name v t.members }

/-- Changes the table that a path leads to; tables that are missing on the way are made, and a list
of tables stands for the last of them. Nothing if the path cannot be taken. Keys of values do not
lead into a table that has a header. -/
def within (made : Origin) : List String → (Table → Option Table) → Table → Option Table
  | [], f, t => f t
  | name :: path, f, t =>
    match t.get? name with
    | none => do
      let child ← within made path f (empty made)
      return t.put name child.node
    | some (.table origin members) =>
      if origin = .inline ∨ origin = .header ∧ made = .dotted then none
      else do
        let child ← within made path f ⟨origin, members⟩
        return t.put name child.node
    | some (.tables elements) =>
      match elements.getLast? with
      | none => none
      | some members => do
        let child ← within made path f ⟨.header, members⟩
        return t.put name (.tables (elements.dropLast ++ [child.members]))
    | some _ => none

/-- Adds a value under a new name. Only keys with points lead to tables that such keys made. -/
def add (k : Key) (v : Node) (t : Table) : Option Table :=
  if (t.get? k.name).isSome ∨ (t.origin = .dotted ↔ k.through = []) then none
  else some (t.put k.name v)

/-- Adds a value under a key. -/
def set (k : Key) (v : Node) : Table → Option Table := within .dotted k.through (add k v)

/-- Opens a table, which must be new or have been named only on the way to others. It becomes the
last of its parent. -/
def openTable (k : Key) : Table → Option Table :=
  within .implied k.through fun t =>
    match t.get? k.name with
    | none => some (t.put k.name (.table .header []))
    | some (.table .implied members) =>
      some { t with members := Keyed.erase k.name t.members ++ [(k.name, .table .header members)] }
    | some _ => none

/-- Opens the next table of a list. -/
def openElement (k : Key) : Table → Option Table :=
  within .implied k.through fun t =>
    match t.get? k.name with
    | none => some (t.put k.name (.tables [[]]))
    | some (.tables elements) => some (t.put k.name (.tables (elements ++ [[]])))
    | some _ => none

/-- The table in braces that holds the given values. -/
def ofSettings? (settings : List (Key × Node)) : Option Table :=
  settings.foldlM (fun t (k, v) => t.set k v) (empty .inline)

end Table

end SchemaInterfaces.Toml
