import SchemaInterfaces.Disk.Fault
import SchemaInterfaces.Disk.Path
import SchemaInterfaces.Keyed

/-! A disk: folders and files by location, and the operations on them. -/

namespace SchemaInterfaces.Disk

/-- What a file holds: text, or bytes that are no text. -/
inductive Content where
  | text (s : String)
  | binary (bytes : List UInt8)
deriving Repr, DecidableEq

inductive Entry where
  | file (content : Content)
  | folder
deriving Repr, DecidableEq

/-- Names from the root down. -/
abbrev Location := List String

/-- The entries of a disk, each location once, and the folder that relative paths start from. The
root is a folder without an entry. There are no links, whoever asks may read and write everything,
and every name is text. -/
structure Tree where
  entries : List (Location × Entry)
  here : Location
deriving Repr

namespace Tree
variable (t : Tree)

def entry? (loc : Location) : Option Entry :=
  if loc = [] then some .folder else t.entries.lookup loc

def put (loc : Location) (e : Entry) : Tree := { t with entries := Keyed.put loc e t.entries }

/-- Requires a folder at a location that a path goes through. -/
def through (loc : Location) : Except Fault Unit :=
  match t.entry? loc with
  | some .folder => .ok ()
  | some (.file _) => .error .notFolder
  | none => .error .notFound

/-- One step of a path, from a folder. -/
def enter (loc : Location) (name : String) : Except Fault Location := do
  t.through loc
  if name = "." then return loc
  if name = ".." then return loc.dropLast
  if 255 < name.utf8ByteSize then throw .nameTooLong
  return loc ++ [name]

/-- The names of a path and where they start, if it can be a path at all. -/
def start (p : Path) : Except Fault (Location × List String) :=
  if p.text.toList.contains '\x00' then .error .nulInName
  else if p.text = "" then .error .notFound
  else if p.isTooLong then .error .nameTooLong
  else .ok (if p.isAbsolute then [] else t.here, p.names)

/-- The location that a path leads to, and what is there. -/
def find (p : Path) : Except Fault (Location × Entry) := do
  let (loc, names) ← t.start p
  let loc ← names.foldlM t.enter loc
  match t.entry? loc with
  | none => throw .notFound
  | some e =>
    if p.endsInSlash then t.through loc
    return (loc, e)

def has (p : Path) : Bool := (t.find p).toBool

def isFolder (p : Path) : Bool :=
  match t.find p with
  | .ok (_, .folder) => true
  | _ => false

def readText (p : Path) : Except Fault String := do
  match ← t.find p with
  | (_, .folder) => throw .isFolder
  | (_, .file (.text s)) => return s
  | (_, .file (.binary _)) => throw .notText

/-- The folder in which a path would make a new entry, and the last name; no name if the path ends
in a point, in two points or at the root, where there always is a folder. -/
def place (p : Path) : Except Fault (Location × Option String) := do
  let (loc, names) ← t.start p
  let parent ← names.dropLast.foldlM t.enter loc
  t.through parent
  return (parent, names.getLast?.filter fun n => n ≠ "." ∧ n ≠ "..")

def makeFolder (p : Path) : Except Fault Tree := do
  match ← t.place p with
  | (_, none) => throw .alreadyExists
  | (parent, some name) =>
    let loc ← t.enter parent name
    if (t.entry? loc).isSome then throw .alreadyExists
    return t.put loc .folder

/-- Writes a file, a new one or over an old one. -/
def writeFile (p : Path) (content : Content) : Except Fault Tree := do
  match ← t.place p with
  | (_, none) => throw .isFolder
  | (parent, some name) =>
    if p.endsInSlash then throw .isFolder
    let loc ← t.enter parent name
    match t.entry? loc with
    | some .folder => throw .isFolder
    | _ => return t.put loc (.file content)

/-- Makes the first folder of the list, and before that those further up that are missing. A folder
that is there already is as good as a new one. -/
def makeFirst : List Path → Action Tree Unit
  | [], t => (.ok (), t)
  | p :: up, t =>
    match t.makeFolder p with
    | .ok t => (.ok (), t)
    | .error .notFound =>
      match makeFirst up t with
      | (.error e, t) => (.error e, t)
      | (.ok _, t) =>
        match t.makeFolder p with
        | .ok t => (.ok (), t)
        | .error e => (if t.isFolder p then .ok () else .error e, t)
    | .error e => (if t.isFolder p then .ok () else .error e, t)

/-- Makes a folder and all above it. -/
def makeFolders (p : Path) : Action Tree Unit := makeFirst p.ancestors

/-- Writes a file, making the folders above it. What was made stays if a later step fails. -/
def writeDeep (p : Path) (content : Content) : Action Tree Unit := fun t =>
  let write (t : Tree) : Except Fault Unit × Tree :=
    match t.writeFile p content with
    | .ok t => (.ok (), t)
    | .error e => (.error e, t)
  match p.parent? with
  | none => write t
  | some parent =>
    match makeFolders parent t with
    | (.ok _, t) => write t
    | (.error e, t) => (.error e, t)

/-- Everything below a location, named from there. -/
def below (loc : Location) : List (Location × Entry) :=
  t.entries.filterMap fun (l, e) =>
    if loc.isPrefixOf l ∧ l ≠ loc then some (l.drop loc.length, e) else none

/-- The bytes of a name, which decide where it stands in a listing. -/
def bytes (name : String) : List UInt8 := name.toUTF8.data.toList

/-- The names in a folder, ascending by their bytes. -/
def namesIn (loc : Location) : List String :=
  let names := t.entries.filterMap fun (l, _) => if l.dropLast = loc then l.getLast? else none
  names.eraseDups.mergeSort fun a b => decide (bytes a ≤ bytes b)

/-- The files that an entry of a folder stands for, under its name: itself, or those in it. -/
def under (name : String) (inside : List (Location × Content)) :
    Option Entry → List (Location × Content)
  | some (.file content) => [([name], content)]
  | some .folder => inside.map fun (l, content) => (name :: l, content)
  | none => []

/-- The files that a walk meets which enters folders up to `depth` inside one another, named from
where it starts. What a folder holds comes where its name stands among the others. -/
def walk : Nat → Location → List (Location × Content)
  | 0, _ => []
  | depth + 1, loc => (t.namesIn loc).flatMap fun name =>
    under name (walk depth (loc ++ [name])) (t.entry? (loc ++ [name]))

/-- How deep entries lie below the root. -/
def depth : Nat := (t.entries.map (·.1.length)).foldr max 0

/-- The files below a location, in the order in which a walk meets them. -/
def filesBelow (loc : Location) : List (Location × Content) := t.walk t.depth loc

end Tree

end SchemaInterfaces.Disk
