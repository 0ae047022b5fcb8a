/-! The lines of a text. -/

namespace SchemaInterfaces.Text

/-- The pieces that line feeds end, and what follows the last one if it is not empty. A carriage
return before a line feed stays with its line. -/
def lines : List Char → List (List Char)
  | [] => []
  | c :: rest =>
    if c = '\n' then [] :: lines rest
    else
      match lines rest with
      | [] => [[c]]
      | line :: more => (c :: line) :: more

end SchemaInterfaces.Text
