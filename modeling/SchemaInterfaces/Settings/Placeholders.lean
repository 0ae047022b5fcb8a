/-! Placeholders for variables of the environment. -/

namespace SchemaInterfaces

/-- The values of the variables that are set. -/
abbrev Environment := String → Option String

namespace Placeholders

def isNameStart (c : Char) : Bool := c.isUpper || c == '_'

def isNamePart (c : Char) : Bool := isNameStart c || c.isDigit

/-- The placeholder of a variable. -/
def mark (name : List Char) : List Char := ['$', '\x7b'] ++ name ++ ['\x7d']

/-- The variable of the placeholder that a text starts with. -/
def first? : List Char → Option (List Char)
  | '$' :: '\x7b' :: rest =>
    let name := rest.takeWhile isNamePart
    if name.head?.any isNameStart && (rest.drop name.length).head? == some '\x7d' then some name
    else none
  | _ => none

/-- The variables of the placeholders of a text, in order. No two placeholders overlap. -/
def names : List Char → List (List Char)
  | [] => []
  | c :: rest => (first? (c :: rest)).toList ++ names rest

/-- Puts `new` in the place of every `old`, from left to right, after passing over `skip`
characters. -/
def replaceFrom (old new : List Char) (skip : Nat) : List Char → List Char
  | [] => []
  | c :: rest =>
    match skip with
    | skip + 1 => replaceFrom old new skip rest
    | 0 =>
      if old.isPrefixOf (c :: rest) then new ++ replaceFrom old new (old.length - 1) rest
      else c :: replaceFrom old new 0 rest

def replaceAll (old new s : List Char) : List Char := replaceFrom old new 0 s

/-- Puts the value of a variable in the place of all its placeholders. -/
def fill (env : Environment) (s name : List Char) : List Char :=
  match env (String.ofList name) with
  | some value => replaceAll (mark name) value.toList s
  | none => s

/-- Fills in the placeholders of a text, one variable after the other in the order of the text.
Those that a value brings in are filled in too if the turn of their variable is still to come. -/
def substitute (env : Environment) (s : String) : String :=
  String.ofList ((names s.toList).foldl (fill env) s.toList)

end Placeholders

end SchemaInterfaces
