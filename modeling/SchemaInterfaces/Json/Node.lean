import SchemaInterfaces.Json.Token

/-! JSON texts as trees. A text that breaks off gives a tree that holds all that stands before the
break, so that readers meet problems in the order of the text. -/

namespace SchemaInterfaces.Json

inductive Node where
  | null
  | boolean (b : Bool)
  | number (n : Numeral)
  | text (s : String)
  /-- A string in which half of a surrogate pair stands alone. -/
  | unpaired
  /-- The items, and whether the array was closed. -/
  | array (items : List Node) (closed : Bool)
  /-- Keys and values in order, and whether the object was closed. There is no key where half of a
  surrogate pair stands alone in it. -/
  | object (members : List (Option String × Node)) (closed : Bool)
  /-- Here the text breaks off. -/
  | broken

namespace Node

/-- The text does not break off inside. It breaks off at most once, and what holds the break is not
closed. -/
def intact : Node → Bool
  | array _ closed | object _ closed => closed
  | broken => false
  | null | boolean _ | number _ | text _ | unpaired => true

/-- The value that a token is by itself. -/
def ofToken? : Token → Option Node
  | .null => some null
  | .boolean b => some (boolean b)
  | .number n => some (number n)
  | .text (some s) => some (text s)
  | .text none => some unpaired
  | _ => none

end Node

/-- An array or object that is still open, its contents last first. -/
inductive Frame where
  | array (items : List Node)
  /-- A key stands alone until its value is read. -/
  | object (members : List (Option String × Node)) (key : Option (Option String))

namespace Frame

/-- Closes the frame in the ordinary way. -/
def close : Frame → Node
  | array items => .array items.reverse true
  | object members _ => .object members.reverse true

/-- Breaks the frame off, `inner` being what was read of the innermost value. -/
def breakOff (inner : Option Node) : Frame → Node
  | array items => .array (inner.toList ++ items).reverse false
  | object members none => .object members.reverse false
  | object members (some key) =>
    .object ((key, inner.getD .broken) :: members).reverse false

end Frame

/-- What may come next. -/
inductive Need where
  | value
  | firstItem
  | key
  | firstKey
  | colon
  | separator
deriving Repr, DecidableEq

/-- A tree under construction: the open frames, innermost first, or the finished tree and whether
only blanks have followed it. -/
inductive Growth where
  | growing (need : Need) (frames : List Frame)
  | grown (root : Node) (alone : Bool)

namespace Growth

/-- Ends the tree at a break. -/
def breakOff (inner : Option Node) : List Frame → Growth
  | [] => grown (inner.getD .broken) false
  | frame :: outer => breakOff (some (frame.breakOff inner)) outer

/-- Puts a value where it belongs. -/
def place (v : Node) : List Frame → Growth
  | [] => grown v true
  | .array items :: outer => growing .separator (.array (v :: items) :: outer)
  | .object members (some key) :: outer =>
    growing .separator (.object ((key, v) :: members) none :: outer)
  | .object members none :: outer => breakOff none (.object members none :: outer)

/-- A value starts where one may stand. -/
def openValue (t : Token) (frames : List Frame) : Growth :=
  match t with
  | .openArray => growing .firstItem (.array [] :: frames)
  | .openObject => growing .firstKey (.object [] none :: frames)
  | _ =>
    match Node.ofToken? t with
    | some v => place v frames
    | none => breakOff none frames

/-- A key starts where one may stand. -/
def openKey (t : Token) (frames : List Frame) : Growth :=
  match t, frames with
  | .text key, .object members none :: outer => growing .colon (.object members (some key) :: outer)
  | _, _ => breakOff none frames

def close (frames : List Frame) : Growth :=
  match frames with
  | [] => breakOff none []
  | frame :: outer => place frame.close outer

/-- One token further. -/
def step (g : Growth) (t : Token) : Growth :=
  match g with
  | grown root _ => grown root false
  | growing need frames =>
    match need, t, frames with
    | .value, _, _ => openValue t frames
    | .firstItem, .closeArray, _ => close frames
    | .firstItem, _, _ => openValue t frames
    | .key, _, _ => openKey t frames
    | .firstKey, .closeObject, _ => close frames
    | .firstKey, _, _ => openKey t frames
    | .colon, .colon, _ => growing .value frames
    | .separator, .comma, .array _ :: _ => growing .value frames
    | .separator, .comma, .object _ _ :: _ => growing .key frames
    | .separator, .closeArray, .array _ :: _ => close frames
    | .separator, .closeObject, .object _ _ :: _ => close frames
    | _, _, _ => breakOff none frames

end Growth

/-- A text as read: its value, and whether nothing but blanks follows. -/
structure Source where
  root : Node
  alone : Bool

namespace Source

def ofTokens (ts : List Token) : Source :=
  match ts.foldl Growth.step (.growing .value []) with
  | .grown root alone => ⟨root, alone⟩
  | .growing _ frames =>
    match Growth.breakOff none frames with
    | .grown root alone => ⟨root, alone⟩
    | .growing _ _ => ⟨.broken, false⟩

def ofText (s : String) : Source := ofTokens (tokens s)

end Source

end SchemaInterfaces.Json
