import SchemaInterfaces.Schema.Catalog
import SchemaInterfaces.TypeScript.Interface
import SchemaInterfaces.TypeScript.Output

/-! Exporting the entities of a catalog, one file each. -/

namespace SchemaInterfaces.TypeScript
open Schema Disk

/-- An entity of which no file was written. -/
structure Skipped where
  entity : String
  cause : MissingTarget
deriving Repr, DecidableEq

structure Report where
  written : List Path := []
  skipped : List Skipped := []
  fallbacks : Fallbacks := {}
deriving Repr, DecidableEq

/-- The file of an entity below the output folder. -/
def targetPath (e : Entity) : Path := Path.join ⟨e.ns⟩ ⟨e.exportedName ++ ".ts"⟩

/-- Adds an entity that leads nowhere. -/
def Report.skip (r : Report) (e : Entity) (cause : MissingTarget) : Report :=
  { r with skipped := r.skipped ++ [⟨e.qualifiedName, cause⟩] }

/-- Adds the fields whose type is not known. -/
def Report.note (r : Report) (b : Fallbacks) : Report :=
  { r with fallbacks := r.fallbacks.append b }

/-- Adds a written file. -/
def Report.write (r : Report) (p : Path) : Report := { r with written := r.written ++ [p] }

variable {ε σ : Type}

/-- Exports entities one after the other. The first file that cannot be written ends the run. -/
def exportFrom (out : Output ε σ) (infer : Inferrer) :
    List Entity → Report → σ → Except ε Report × σ
  | [], r, s => (.ok r, s)
  | e :: rest, r, s =>
    match Interface.ofEntity infer e with
    | .error cause => exportFrom out infer rest (r.skip e cause) s
    | .ok (u, b) =>
      match out (targetPath e) u.render s with
      | (.ok _, s) => exportFrom out infer rest ((r.note b).write (targetPath e)) s
      | (.error fault, s) => (.error fault, s)

def exportAll (out : Output ε σ) (infer : Inferrer) (c : Catalog) : σ → Except ε Report × σ :=
  exportFrom out infer c.entities {}

end SchemaInterfaces.TypeScript
