import SchemaInterfaces.Disk.Tree
import SchemaInterfaces.Schema.Document

/-! Schema folders: every document below a folder, read into one catalog. -/

namespace SchemaInterfaces.Schema
open Disk

/-- A schema folder that is not there. -/
structure MissingFolder where
  path : Path
deriving Repr, DecidableEq

def MissingFolder.message (e : MissingFolder) : String :=
  s!"Failed to parse {e.path.text}: schema directory does not exist"

/-- The document that a file in the folder `p` is, under its name from there. Files that are no
text, and those whose paths from `p` on are too long, are none. -/
def document? (p : Path) : Location × Content → Option (Location × String)
  | (l, .text s) =>
    if l.getLast?.bind extension? = some "json" ∧ (p.inside l).isTooLong = false then some (l, s)
    else none
  | (_, .binary _) => none

/-- The documents in the folder `p`, which is at `loc`, as a walk meets them. -/
def documentsBelow (t : Tree) (p : Path) (loc : Location) : List (Location × String) :=
  (t.filesBelow loc).filterMap (document? p)

/-- Loads documents one after the other. Those that cannot be read are passed over. -/
def Catalog.loadAll (source : Source) (c : Catalog) (docs : List (Location × String)) : Catalog :=
  docs.foldl (fun c doc => (c.load source doc.2).2) c

/-- The entities of all documents of a source. -/
def Catalog.ofFolder (t : Tree) (source : Source) (p : Path) : Except MissingFolder Catalog :=
  match t.find p with
  | .ok (loc, .folder) => .ok (empty.loadAll source (documentsBelow t p loc))
  | _ => .error ⟨p⟩

end SchemaInterfaces.Schema
