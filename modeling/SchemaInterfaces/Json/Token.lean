import SchemaInterfaces.Json.Numeral

/-! The tokens of a JSON text, found one character at a time. -/

namespace SchemaInterfaces.Json
open Text

inductive Token where
  | openArray
  | closeArray
  | openObject
  | closeObject
  | comma
  | colon
  | null
  | boolean (b : Bool)
  | number (n : Numeral)
  /-- A string; nothing if an escape in it leaves half of a surrogate pair alone. -/
  | text (s : Option String)
  /-- What is here, or ends here, is no token. Nothing follows. -/
  | junk
deriving Repr, DecidableEq

/-- A piece of a string: a character, or the 16-bit unit of a `\u` escape. -/
inductive Piece where
  | char (c : Char)
  | unit (u : Nat)
deriving Repr, DecidableEq

/-- The characters that pieces stand for: two units of a surrogate pair make one, and neither half
may stand alone. -/
def joinPieces : List Piece → Option (List Char)
  | [] => some []
  | .char c :: rest => (c :: ·) <$> joinPieces rest
  | .unit u :: rest =>
    if 0xD800 ≤ u ∧ u < 0xDC00 then
      match rest with
      | .unit v :: rest =>
        if 0xDC00 ≤ v ∧ v < 0xE000 then
          (Char.ofNat (0x10000 + (u - 0xD800) * 0x400 + (v - 0xDC00)) :: ·) <$> joinPieces rest
        else none
      | _ => none
    else if 0xDC00 ≤ u ∧ u < 0xE000 then none
    else (Char.ofNat u :: ·) <$> joinPieces rest

/-- The character that a backslash and a letter stand for. -/
def unescape? : Char → Option Char
  | '"' => some '"'
  | '\\' => some '\\'
  | '/' => some '/'
  | 'b' => some '\x08'
  | 'f' => some '\x0c'
  | 'n' => some '\n'
  | 'r' => some '\r'
  | 't' => some '\t'
  | _ => none

/-- How far a number has been read. -/
inductive NumberPart where
  | minus
  | zero
  | whole
  | point
  | fraction
  | mark
  | sign
  | exponent
deriving Repr, DecidableEq

namespace NumberPart

/-- A number may end here. -/
def final : NumberPart → Bool
  | zero | whole | fraction | exponent => true
  | minus | point | mark | sign => false

/-- The part that `c` belongs to after this one, if it continues the number. -/
def next? (p : NumberPart) (c : Char) : Option NumberPart :=
  match p with
  | minus => if c = '0' then some zero else if isDigit c then some whole else none
  | zero => if c = '.' then some point else if c = 'e' ∨ c = 'E' then some mark else none
  | whole =>
    if isDigit c then some whole
    else if c = '.' then some point
    else if c = 'e' ∨ c = 'E' then some mark
    else none
  | point => if isDigit c then some fraction else none
  | fraction => if isDigit c then some fraction else if c = 'e' ∨ c = 'E' then some mark else none
  | mark => if c = '+' ∨ c = '-' then some sign else if isDigit c then some exponent else none
  | sign => if isDigit c then some exponent else none
  | exponent => if isDigit c then some exponent else none

end NumberPart

namespace Numeral

def start (negative : Bool) : Numeral := ⟨negative, [], none, none⟩

/-- Adds a character of the given part, in front of the digits there. -/
def extend (n : Numeral) (part : NumberPart) (c : Char) : Numeral :=
  match part with
  | .minus => n
  | .zero | .whole => { n with whole := c :: n.whole }
  | .point => { n with fraction := some [] }
  | .fraction => { n with fraction := some (c :: n.fraction.getD []) }
  | .mark => { n with exponent := some (false, []) }
  | .sign => { n with exponent := some (c == '-', []) }
  | .exponent =>
    let (negative, ds) := n.exponent.getD (false, [])
    { n with exponent := some (negative, c :: ds) }

/-- Puts digits that were collected last first into reading order. -/
def inOrder (n : Numeral) : Numeral :=
  { n with
    whole := n.whole.reverse
    fraction := n.fraction.map List.reverse
    exponent := n.exponent.map fun (negative, ds) => (negative, ds.reverse) }

end Numeral

/-- Where the scanner stands. Pieces of a string and digits are kept last first. -/
inductive Scan where
  | between
  /-- Inside a name; these letters must follow. -/
  | word (rest : List Char) (token : Token)
  | number (part : NumberPart) (n : Numeral)
  | text (pieces : List Piece)
  | escape (pieces : List Piece)
  | hex (pieces : List Piece) (left : Nat) (value : Nat)
  | stuck
deriving Repr, DecidableEq

namespace Scan

/-- One character outside all tokens. -/
def start (c : Char) : Scan × List Token :=
  match c with
  | ' ' | '\t' | '\n' | '\r' => (between, [])
  | '[' => (between, [.openArray])
  | ']' => (between, [.closeArray])
  | '\x7b' => (between, [.openObject])
  | '\x7d' => (between, [.closeObject])
  | ',' => (between, [.comma])
  | ':' => (between, [.colon])
  | 'n' => (word ['u', 'l', 'l'] .null, [])
  | 't' => (word ['r', 'u', 'e'] (.boolean true), [])
  | 'f' => (word ['a', 'l', 's', 'e'] (.boolean false), [])
  | '"' => (text [], [])
  | '-' => (number .minus (.start true), [])
  | _ =>
    match NumberPart.minus.next? c with
    | some part => (number part ((Numeral.start false).extend part c), [])
    | none => (stuck, [.junk])

/-- One character further, and the tokens that it ends. -/
def step (state : Scan) (c : Char) : Scan × List Token :=
  match state with
  | between => start c
  | word [] t => (between, [t])
  | word (l :: rest) t =>
    if c ≠ l then (stuck, [.junk])
    else if rest.isEmpty then (between, [t])
    else (word rest t, [])
  | number part n =>
    match part.next? c with
    | some part => (number part (n.extend part c), [])
    | none =>
      if ¬ part.final ∨ part = .zero ∧ isDigit c then (stuck, [.junk])
      else
        let (state, tokens) := start c
        (state, .number n.inOrder :: tokens)
  | text pieces =>
    if c = '"' then (between, [.text ((joinPieces pieces.reverse).map String.ofList)])
    else if c = '\\' then (escape pieces, [])
    else if c.toNat < 0x20 then (stuck, [.junk])
    else (text (.char c :: pieces), [])
  | escape pieces =>
    if c = 'u' then (hex pieces 4 0, [])
    else
      match unescape? c with
      | some c => (text (.char c :: pieces), [])
      | none => (stuck, [.junk])
  | hex pieces left value =>
    match hexValue? c with
    | some d =>
      let value := 16 * value + d
      (if left ≤ 1 then text (.unit value :: pieces) else hex pieces (left - 1) value, [])
    | none => (stuck, [.junk])
  | stuck => (stuck, [])

/-- The tokens that the end of the text ends. -/
def finish : Scan → List Token
  | between => []
  | number part n => if part.final then [.number n.inOrder] else [.junk]
  | stuck => []
  | word _ _ | text _ | escape _ | hex _ _ _ => [.junk]

/-- Scans characters; the tokens found so far are kept last first. -/
def run (state : Scan) (found : List Token) : List Char → List Token
  | [] => (state.finish.reverse ++ found).reverse
  | c :: rest =>
    let (state, tokens) := state.step c
    run state (tokens.reverse ++ found) rest

end Scan

def tokens (s : String) : List Token := Scan.run .between [] s.toList

end SchemaInterfaces.Json
