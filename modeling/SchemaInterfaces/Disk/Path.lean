import SchemaInterfaces.Text.Split

/-! Paths as text, and what they say regardless of any file. -/

namespace SchemaInterfaces.Disk
open Text

structure Path where
  text : String
deriving Repr, DecidableEq

/-- One part of a path. A point inside a path says nothing and is no part. -/
inductive Part where
  | root
  /-- A point at the start. -/
  | here
  | up
  | name (s : String)
deriving Repr, DecidableEq

/-- What stands between slashes, the empty pieces included. -/
def piecesOf (s : List Char) : List String := (splitBy (· == '/') s).map String.ofList

/-- The names between slashes. -/
def namesOf (s : List Char) : List String := (piecesOf s).filter (· ≠ "")

/-- The ways to cut a list of pieces, given last first, behind a piece that says something, from the
longest down to the one that leaves nothing. -/
def cuts : List String → List (List String)
  | [] => [[]]
  | piece :: rest =>
    if piece = "" ∨ piece = "." then cuts rest else (piece :: rest).reverse :: cuts rest

namespace Path
variable (p : Path)

def isAbsolute : Bool := p.text.toList.head? == some '/'

def endsInSlash : Bool := p.text.toList.getLast? == some '/'

def names : List String := namesOf p.text.toList

/-- The path has 4096 bytes or more. No operation takes such a path. -/
def isTooLong : Bool := 4096 ≤ p.text.utf8ByteSize

/-- The parts of a path. Paths with the same parts are the same. -/
def parts : List Part :=
  (if p.isAbsolute then [.root] else if p.names.head? = some "." then [.here] else []) ++
    (p.names.filter (· ≠ ".")).map fun n => if n = ".." then .up else .name n

/-- `q` as seen from `p`. An absolute path is not seen from anywhere. -/
def join (q : Path) : Path :=
  if q.isAbsolute then q
  else if p.text = "" ∨ p.endsInSlash then ⟨p.text ++ q.text⟩
  else ⟨p.text ++ "/" ++ q.text⟩

/-- The path of what has these names, one inside the other, in the folder `p`. -/
def inside (names : List String) : Path := p.join ⟨"/".intercalate names⟩

/-- The paths without the last part, without the last two, and so on. What is left keeps its text,
so that a path with a point or two slashes in the middle has them in the paths above it too. Above
the empty path and the root there is none. -/
def above : List Path :=
  match piecesOf p.text.toList with
  | [] => []
  | "" :: rest =>
    (cuts rest.reverse).tail.map fun pieces =>
      if pieces = [] then ⟨"/"⟩ else ⟨"/".intercalate ("" :: pieces)⟩
  | first :: rest =>
    ((cuts rest.reverse).tail.map fun pieces => ⟨"/".intercalate (first :: pieces)⟩) ++ [⟨""⟩]

/-- The path without its last part. -/
def parent? : Option Path := p.above.head?

/-- The path and those above it, without the empty one. -/
def ancestors : List Path := (p :: p.above).filter (·.text ≠ "")

end Path

/-- What follows the last point of a file name. A point in front of the name does not count. -/
def extension? (name : String) : Option String :=
  if name = ".." then none
  else
    let backwards := name.toList.reverse
    match backwards.dropWhile (· != '.') with
    | [] | [_] => none
    | _ => some (String.ofList (backwards.takeWhile (· != '.')).reverse)

end SchemaInterfaces.Disk
