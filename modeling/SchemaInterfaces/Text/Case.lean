import SchemaInterfaces.Text.Case.Cased
import SchemaInterfaces.Text.Case.Tables

/-! Upper and lower case of characters and texts. -/

namespace SchemaInterfaces.Text

/-- The code point that a table of runs gives for `n`. Runs ascend, so the search ends at the first
one that starts above it. -/
def mapRun? (n : Nat) : List (Nat × Nat × Nat × Nat) → Option Nat
  | [] => none
  | (first, last, step, image) :: rest =>
    if n < first then none
    else if n ≤ last ∧ (n - first) % step = 0 then some (image + (n - first))
    else mapRun? n rest

def mapCase (runs : List (Nat × Nat × Nat × Nat)) (expansions : List (Nat × List Nat))
    (c : Char) : List Char :=
  match expansions.lookup c.toNat with
  | some ns => ns.map Char.ofNat
  | none => [((mapRun? c.toNat runs).map Char.ofNat).getD c]

/-- The full upper case of one character, whatever stands around it. -/
def upper (c : Char) : List Char := mapCase upperRuns upperExpansions c

/-- The full lower case of one character, whatever stands around it. -/
def lower (c : Char) : List Char := mapCase lowerRuns lowerExpansions c

/-- Upper-cases the first character and lower-cases the others, each on its own. -/
def capitalize : List Char → List Char
  | [] => []
  | c :: rest => upper c ++ rest.flatMap lower

/-- The first character that is not case-ignorable is cased. -/
def meetsCased (s : List Char) : Bool := (s.dropWhile isCaseIgnorable).head?.any isCased

/-- Lower-cases a text of which `before`, nearest first, has been read. A capital sigma that ends a
word becomes a final sigma. -/
def lowerFrom (before : List Char) : List Char → List Char
  | [] => []
  | c :: rest =>
    (if c = 'Σ' then [if meetsCased before && !meetsCased rest then 'ς' else 'σ'] else lower c) ++
      lowerFrom (c :: before) rest

def lowerText (s : String) : String := String.ofList (lowerFrom [] s.toList)

end SchemaInterfaces.Text
