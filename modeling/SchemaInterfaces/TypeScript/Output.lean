import SchemaInterfaces.Disk.Tree

/-! Where rendered files go. -/

namespace SchemaInterfaces.TypeScript
open Disk

/-- Takes one file, by its path below the output folder. It may fail at any call, and leaves its
mark on the state even then. -/
abbrev Output (ε σ : Type) := Path → String → σ → Except ε Unit × σ

/-- Files kept by the parts of their paths. -/
structure Memory where
  files : List (List Part × String) := []
deriving Repr, DecidableEq

namespace Memory

def put (m : Memory) (p : Path) (text : String) : Memory := ⟨Keyed.put p.parts text m.files⟩

def get? (m : Memory) (p : Path) : Option String := m.files.lookup p.parts

def size (m : Memory) : Nat := m.files.length

def output : Output Fault Memory := fun p text m => (.ok (), m.put p text)

end Memory

/-- Writes files below a folder of a disk. -/
def diskOutput (root : Path) : Output Fault Tree := fun p text =>
  Tree.writeDeep (root.join p) (.text text)

end SchemaInterfaces.TypeScript
