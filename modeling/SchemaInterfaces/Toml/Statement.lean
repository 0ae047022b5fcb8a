import SchemaInterfaces.Toml.Node
import SchemaInterfaces.Toml.Token

/-! The statements of a TOML text: headers, and values under their keys. -/

namespace SchemaInterfaces.Toml
open Text

inductive Statement where
  /-- The header of a table. -/
  | table (k : Key)
  /-- The header of the next table of a list. -/
  | element (k : Key)
  | setting (k : Key) (v : Node)

/-- Arrays and tables in braces lie less than this deep inside one another, and a key has fewer
names than this. -/
def depthLimit : Nat := 80

inductive KeyPart where
  | name (s : String)
  | point
deriving Repr, DecidableEq

/-- A character of a key without quotes. -/
def isBare (c : Char) : Bool := c.isAlphanum || c == '_' || c == '-'

/-- The names of a word and the points between them. -/
def wordParts? (s : List Char) : Option (List KeyPart) :=
  let names := splitBy (· == '.') s
  let part (n : List Char) : List KeyPart := if n.isEmpty then [] else [.name (String.ofList n)]
  if names.all (·.all isBare) then some ([.point].intercalate (names.map part)) else none

def keyParts? : Token → Option (List KeyPart)
  | .word s => wordParts? s
  | .text s false => some [.name (String.ofList s)]
  | _ => none

/-- Names and points in turn. -/
def joinKey? : List KeyPart → Option Key
  | [.name s] => some ⟨[], s⟩
  | .name s :: .point :: rest => do
    let k ← joinKey? rest
    return ⟨s :: k.through, k.name⟩
  | _ => none

/-- The key that parts make up, given last first. -/
def keyOf? (parts : List KeyPart) : Option Key :=
  (joinKey? parts.reverse).filter fun k => k.through.length + 1 < depthLimit

/-- What encloses a value that is still open. Contents are kept last first. -/
inductive Frame where
  | setting (k : Key)
  | array (items : List Node)
  /-- The settings so far, and the key whose value is being read. -/
  | table (settings : List (Key × Node)) (k : Key)

/-- Where the reader stands. -/
inductive Growth where
  /-- A statement may start. -/
  | line
  /-- After one bracket at the start of a statement. -/
  | bracket
  /-- In a header; whether it opens the next table of a list. -/
  | header (doubled : Bool) (parts : List KeyPart)
  /-- After one of the two brackets that close a header. -/
  | closing (k : Key)
  /-- In the key of a line. -/
  | key (parts : List KeyPart)
  /-- In a key between braces. -/
  | innerKey (parts : List KeyPart) (settings : List (Key × Node)) (outer : List Frame)
  /-- A value comes next, or the end of the array. -/
  | value (frames : List Frame)
  /-- After a value inside others. -/
  | separator (frames : List Frame)
  /-- The line must end. -/
  | ended

namespace Growth

/-- Whether the innermost open value is an array, in which lines may end. -/
def inArray : List Frame → Bool
  | .array _ :: _ => true
  | _ => false

/-- Puts a value where it belongs. -/
def place (v : Node) : List Frame → Option (Growth × List Statement)
  | [] => none
  | .setting k :: _ => some (ended, [.setting k v])
  | .array items :: outer => some (separator (.array (v :: items) :: outer), [])
  | .table settings k :: outer => some (separator (.table ((k, v) :: settings) k :: outer), [])

/-- The value that a token is by itself. -/
def valueOf? : Token → Option Node
  | .word s => (Scalar.ofWord? s).map .scalar
  | .text s _ => some (.text s)
  | _ => none

def closeTable (settings : List (Key × Node)) (outer : List Frame) :
    Option (Growth × List Statement) := do
  let t ← Table.ofSettings? settings.reverse
  place t.node outer

/-- Where a value may stand. -/
def stepValue (frames : List Frame) (t : Token) : Option (Growth × List Statement) :=
  match t, frames with
  | .openBracket, _ =>
    if frames.length < depthLimit then some (value (.array [] :: frames), []) else none
  | .openBrace, _ => if frames.length < depthLimit then some (innerKey [] [] frames, []) else none
  | .closeBracket, .array items :: outer => place (.array items.reverse) outer
  | .newline, _ => if inArray frames then some (value frames, []) else none
  | _, _ => do place (← valueOf? t) frames

/-- After a value inside others. -/
def stepSeparator (frames : List Frame) (t : Token) : Option (Growth × List Statement) :=
  match t, frames with
  | .comma, .array _ :: _ => some (value frames, [])
  | .comma, .table settings _ :: outer => some (innerKey [] settings outer, [])
  | .closeBracket, .array items :: outer => place (.array items.reverse) outer
  | .closeBrace, .table settings _ :: outer => closeTable settings outer
  | .newline, _ => if inArray frames then some (separator frames, []) else none
  | _, _ => none

/-- One token further, and the statements that it completes. -/
def step (g : Growth) (t : Token) : Option (Growth × List Statement) :=
  match g, t with
  | closing k, .closeBracket => some (ended, [.element k])
  | closing _, _ => none
  | bracket, .openBracket => some (header true [], [])
  | bracket, .blank => some (header false [], [])
  | bracket, _ => do return (header false (← keyParts? t).reverse, [])
  | _, .blank => some (g, [])
  | line, .newline | ended, .newline => some (line, [])
  | ended, _ => none
  | line, .openBracket => some (bracket, [])
  | line, _ => do return (key (← keyParts? t).reverse, [])
  | header doubled parts, .closeBracket => do
    let k ← keyOf? parts
    if doubled then return (closing k, []) else return (ended, [.table k])
  | header doubled parts, _ => do return (header doubled ((← keyParts? t).reverse ++ parts), [])
  | key parts, .equals => do return (value [.setting (← keyOf? parts)], [])
  | key parts, _ => do return (key ((← keyParts? t).reverse ++ parts), [])
  | innerKey parts settings outer, .equals => do
    return (value (.table settings (← keyOf? parts) :: outer), [])
  | innerKey [] [] outer, .closeBrace => closeTable [] outer
  | innerKey parts settings outer, _ => do
    return (innerKey ((← keyParts? t).reverse ++ parts) settings outer, [])
  | value frames, _ => stepValue frames t
  | separator frames, _ => stepSeparator frames t

/-- The text may end here. -/
def mayEnd : Growth → Bool
  | line | ended => true
  | _ => false

/-- The statements that tokens make up, if they are statements. -/
def run (g : Growth) : List Token → Option (List Statement)
  | [] => if g.mayEnd then some [] else none
  | t :: rest => do
    let (g, done) ← g.step t
    return done ++ (← run g rest)

end Growth

def statements? (s : String) : Option (List Statement) := Growth.run .line (tokens s)

end SchemaInterfaces.Toml
