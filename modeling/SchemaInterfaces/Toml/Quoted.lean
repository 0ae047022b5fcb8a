import SchemaInterfaces.Toml.Token

/-! Strings of TOML as they are written: in the plainest of five forms that can hold the text. -/

namespace SchemaInterfaces.Toml

inductive Form where
  | single (q : Quote)
  | tripled (q : Quote)
  /-- A basic string in which whatever cannot stand as it is has an escape. -/
  | escaped (isTripled : Bool)
deriving Repr, DecidableEq

/-- A character without a shape of its own, tabs and line ends apart. -/
def isControl (c : Char) : Bool := c != '\n' && !isPlain c

/-- The most occurrences of a character in a row, after `run` of them, given the most so far. -/
def longestRunFrom (x : Char) (run most : Nat) : List Char → Nat
  | [] => max run most
  | c :: rest =>
    if c = x then longestRunFrom x (run + 1) most rest else longestRunFrom x 0 (max run most) rest

def longestRun (x : Char) (s : List Char) : Nat := longestRunFrom x 0 0 s

namespace Form

/-- The form of a text. -/
def of (s : List Char) : Form :=
  let quotes := longestRun '"' s
  let apostrophes := longestRun '\'' s
  let breaks := s.contains '\n'
  if s.any isControl then escaped breaks
  else if !s.contains '\\' ∧ quotes = 0 ∧ !breaks then single .basic
  else if apostrophes = 0 ∧ !breaks then single .literal
  else if !s.contains '\\' ∧ quotes ≤ 2 then tripled .basic
  else if apostrophes ≤ 2 then tripled .literal
  else escaped breaks

end Form

/-- The escape of a code point below 65536. -/
def codeEscape (c : Char) : List Char :=
  let ds := (Nat.toDigits 16 c.toNat).map Char.toUpper
  ['\\', 'u'] ++ List.replicate (4 - ds.length) '0' ++ ds

/-- A character other than a double quote in a basic string. -/
def escapeChar (isTripled : Bool) (c : Char) : List Char :=
  if c = '\x08' then ['\\', 'b']
  else if c = '\t' then ['\\', 't']
  else if c = '\x0c' then ['\\', 'f']
  else if c = '\r' then ['\\', 'r']
  else if c = '\\' then ['\\', '\\']
  else if c = '\n' then if isTripled then ['\n'] else ['\\', 'n']
  else if isControl c then codeEscape c
  else [c]

/-- The inside of a basic string. Triple quotes can hold two double quotes in a row. -/
def escapeFrom (isTripled : Bool) (run : Nat) : List Char → List Char
  | [] => []
  | c :: rest =>
    if c ≠ '"' then escapeChar isTripled c ++ escapeFrom isTripled 0 rest
    else if isTripled ∧ run < 2 then '"' :: escapeFrom isTripled (run + 1) rest
    else '\\' :: '"' :: escapeFrom isTripled 0 rest

/-- A text in the quotes of its form. In triple quotes a text of more than one line starts on a line
of its own. -/
def enclose (q : Quote) (isTripled : Bool) (body : List Char) : List Char :=
  if isTripled then
    let marks := List.replicate 3 q.mark
    marks ++ (if body.contains '\n' then ['\n'] else []) ++ body ++ marks
  else q.mark :: body ++ [q.mark]

def quoted (s : List Char) : List Char :=
  match Form.of s with
  | .single .literal => enclose .literal false s
  | .tripled .literal => enclose .literal true s
  | .single .basic | .escaped false => enclose .basic false (escapeFrom false 0 s)
  | .tripled .basic | .escaped true => enclose .basic true (escapeFrom true 0 s)

end SchemaInterfaces.Toml
