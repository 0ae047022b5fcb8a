import SchemaInterfaces.Text.Alphabetic
import SchemaInterfaces.Text.Numeric
import SchemaInterfaces.Text.Split

/-! The characters that make up names, and the words of a text. -/

namespace SchemaInterfaces.Text

def isAlphanumeric (c : Char) : Bool := isAlphabetic c || isNumeric c

/-- A character of a name in source text. -/
def isWordChar (c : Char) : Bool := isAlphanumeric c || c == '_'

/-- A character that a name in source text may start with. -/
def isWordStart (c : Char) : Bool := isAlphabetic c || c == '_'

/-- The word occurs with no further name character on either side. -/
def containsWord (s word : List Char) : Bool := (splitBy (fun c => !isWordChar c) s).contains word

end SchemaInterfaces.Text
