import SchemaInterfaces.Toml.Scalar

/-! The tokens of a TOML text, found one character at a time. -/

namespace SchemaInterfaces.Toml
open Text

inductive Token where
  | newline
  /-- One space or tab. -/
  | blank
  /-- Characters of keys and of values without quotes, as many as stand together. -/
  | word (s : List Char)
  /-- A string, and whether it was written in triple quotes. -/
  | text (s : List Char) (tripled : Bool)
  | openBracket
  | closeBracket
  | openBrace
  | closeBrace
  | equals
  | comma
  /-- What is here, or ends here, is no token. Nothing follows. -/
  | junk
deriving Repr, DecidableEq

/-- The two kinds of strings. Only in the basic ones a backslash has a meaning. -/
inductive Quote where
  | basic
  | literal
deriving Repr, DecidableEq

def Quote.mark : Quote → Char
  | basic => '"'
  | literal => '\''

def isWordPart (c : Char) : Bool := c.isAlphanum || ['_', '-', '+', '.', ':'].contains c

/-- A character that may stand in a comment, and in a string as it is. -/
def isPlain (c : Char) : Bool := c == '\t' || (0x20 ≤ c.toNat && c != '\x7f')

/-- The character that a backslash and a letter stand for. -/
def unescape? : Char → Option Char
  | '"' => some '"'
  | '\\' => some '\\'
  | 'b' => some '\x08'
  | 'f' => some '\x0c'
  | 'n' => some '\n'
  | 'r' => some '\r'
  | 't' => some '\t'
  | _ => none

/-- The character with a code point, if there is one. -/
def scalar? (n : Nat) : Option Char := if n.isValidChar then some (Char.ofNat n) else none

/-- Where the scanner stands. Characters are kept last first. -/
inductive Scan where
  | between
  | word (s : List Char)
  /-- After a date and one space: a time may follow. -/
  | afterDate (date : List Char)
  | comment
  /-- After one quote that opens a string. -/
  | opening (q : Quote)
  /-- After two quotes. -/
  | opened (q : Quote)
  /-- After three quotes: a line end here does not count. -/
  | fresh (q : Quote)
  | single (q : Quote) (s : List Char)
  /-- In triple quotes, after a run of quotes that may end the string. -/
  | tripled (q : Quote) (s : List Char) (run : Nat)
  | escape (isTripled : Bool) (s : List Char)
  | hex (isTripled : Bool) (s : List Char) (left : Nat) (value : Nat)
  /-- After a backslash at the end of a line: blanks do not count, nor line ends after the first. -/
  | fold (s : List Char) (ended : Bool)
  | stuck
deriving Repr, DecidableEq

namespace Scan

/-- Back to a basic string after an escape. -/
def resume (isTripled : Bool) (s : List Char) : Scan :=
  if isTripled then tripled .basic s 0 else single .basic s

/-- One character outside all tokens. -/
def start (c : Char) : Scan × List Token :=
  match c with
  | '\n' => (between, [.newline])
  | ' ' | '\t' => (between, [.blank])
  | '[' => (between, [.openBracket])
  | ']' => (between, [.closeBracket])
  | '\x7b' => (between, [.openBrace])
  | '\x7d' => (between, [.closeBrace])
  | '=' => (between, [.equals])
  | ',' => (between, [.comma])
  | '#' => (comment, [])
  | '"' => (opening .basic, [])
  | '\'' => (opening .literal, [])
  | _ => if isWordPart c then (word [c], []) else (stuck, [.junk])

/-- A character outside all tokens, after one that ended before it. -/
def startAfter (t : Token) (c : Char) : Scan × List Token :=
  let (state, tokens) := start c
  (state, t :: tokens)

/-- A run of three to five quotes ends a string. All but three of them belong to it. -/
def closing? (q : Quote) (s : List Char) (run : Nat) : Option Token :=
  if 3 ≤ run ∧ run ≤ 5 then some (.text (List.replicate (run - 3) q.mark ++ s).reverse true)
  else none

def stepSingle (q : Quote) (s : List Char) (c : Char) : Scan × List Token :=
  if c = q.mark then (between, [.text s.reverse false])
  else if q = .basic ∧ c = '\\' then (escape false s, [])
  else if isPlain c then (single q (c :: s), [])
  else (stuck, [.junk])

def stepTripled (q : Quote) (s : List Char) (run : Nat) (c : Char) : Scan × List Token :=
  if c = q.mark then (tripled q s (run + 1), [])
  else if 3 ≤ run then
    match closing? q s run with
    | some t => startAfter t c
    | none => (stuck, [.junk])
  else
    let s := List.replicate run q.mark ++ s
    if q = .basic ∧ c = '\\' then (escape true s, [])
    else if c = '\n' ∨ isPlain c then (tripled q (c :: s) 0, [])
    else (stuck, [.junk])

/-- One character further, and the tokens that it ends. -/
def step (state : Scan) (c : Char) : Scan × List Token :=
  match state with
  | between => start c
  | word s =>
    if isWordPart c then (word (c :: s), [])
    else if c = ' ' ∧ isDate s.reverse then (afterDate s, [])
    else startAfter (.word s.reverse) c
  | afterDate date =>
    if isDigit c then (word (c :: ' ' :: date), [])
    else
      let (state, tokens) := start c
      (state, .word date.reverse :: .blank :: tokens)
  | comment =>
    if c = '\n' then (between, [.newline])
    else if isPlain c then (comment, [])
    else (stuck, [.junk])
  | opening q => if c = q.mark then (opened q, []) else stepSingle q [] c
  | opened q => if c = q.mark then (fresh q, []) else startAfter (.text [] false) c
  | fresh q => if c = '\n' then (tripled q [] 0, []) else stepTripled q [] 0 c
  | single q s => stepSingle q s c
  | tripled q s run => stepTripled q s run c
  | escape isTripled s =>
    if c = 'u' then (hex isTripled s 4 0, [])
    else if c = 'U' then (hex isTripled s 8 0, [])
    else if isTripled ∧ c = '\n' then (fold s true, [])
    else if isTripled ∧ (c = ' ' ∨ c = '\t') then (fold s false, [])
    else
      match unescape? c with
      | some c => (resume isTripled (c :: s), [])
      | none => (stuck, [.junk])
  | hex isTripled s left value =>
    match hexValue? c with
    | none => (stuck, [.junk])
    | some d =>
      let value := 16 * value + d
      if 1 < left then (hex isTripled s (left - 1) value, [])
      else
        match scalar? value with
        | some c => (resume isTripled (c :: s), [])
        | none => (stuck, [.junk])
  | fold s ended =>
    if c = ' ' ∨ c = '\t' then (fold s ended, [])
    else if c = '\n' then (fold s true, [])
    else if ended then stepTripled .basic s 0 c
    else (stuck, [.junk])
  | stuck => (stuck, [])

/-- The tokens that the end of the text ends. -/
def finish : Scan → List Token
  | between | comment | stuck => []
  | word s => [.word s.reverse]
  | afterDate date => [.word date.reverse, .blank]
  | opened _ => [.text [] false]
  | tripled q s run => [(closing? q s run).getD .junk]
  | opening _ | fresh _ | single _ _ | escape _ _ | hex _ _ _ _ | fold _ _ => [.junk]

/-- Scans characters; the tokens found so far are kept last first. -/
def run (state : Scan) (found : List Token) : List Char → List Token
  | [] => (state.finish.reverse ++ found).reverse
  | c :: rest =>
    let (state, tokens) := state.step c
    run state (tokens.reverse ++ found) rest

end Scan

/-- Line ends of two characters become ones of one. -/
def unifyLineEnds : List Char → List Char
  | '\r' :: '\n' :: rest => '\n' :: unifyLineEnds rest
  | c :: rest => c :: unifyLineEnds rest
  | [] => []

/-- A mark of the byte order in front of the text does not count. -/
def dropMark : List Char → List Char
  | '\ufeff' :: rest => rest
  | s => s

def tokens (s : String) : List Token := Scan.run .between [] (unifyLineEnds (dropMark s.toList))

end SchemaInterfaces.Toml
