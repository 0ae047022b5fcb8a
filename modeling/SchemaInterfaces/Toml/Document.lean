import SchemaInterfaces.Toml.Statement

/-! Whole TOML documents, one statement after the other. -/

namespace SchemaInterfaces.Toml

/-- A document as far as it was read: its tables, and where values are put now. -/
structure Document where
  root : Table
  here : List String

namespace Document

def empty : Document := ⟨.empty .header, []⟩

/-- Takes in a statement. Nothing if it contradicts those before it. -/
def add (d : Document) : Statement → Option Document
  | .table k => do return ⟨← d.root.openTable k, k.through ++ [k.name]⟩
  | .element k => do return ⟨← d.root.openElement k, k.through ++ [k.name]⟩
  | .setting k v => do return { d with root := ← d.root.within .implied d.here (Table.set k v) }

/-- The root table of a text, if the text is well formed. -/
def ofText? (s : String) : Option Table := do
  let d ← (← statements? s).foldlM add empty
  return d.root

end Document

end SchemaInterfaces.Toml
