import SchemaInterfaces.Schema.Entity
import SchemaInterfaces.Text.Digit
import SchemaInterfaces.Text.Line
import SchemaInterfaces.Text.Word

/-! The type that a method returns, as far as its declaration and its text tell. -/

namespace SchemaInterfaces.TypeScript
open Schema Text

/-- The type of a value of which nothing is known. -/
def anyType : String := "any"

/-- The type of free-form data with string keys. -/
def mappingType : String := "\x7b [key: string]: any \x7d"

/-- The type of a sequence of unknown items. -/
def anyArrayType : String := "any[]"

/-- Tells the type that a method returns, if it can. -/
abbrev Inferrer := Method → Option String

/-- What a name means in an annotation. -/
inductive Annotated where
  | type (t : String)
  /-- The name says nothing about the value. -/
  | vague

def annotated : List (String × Annotated) :=
  [("int", .type "number"), ("str", .type "string"), ("bool", .type "boolean"),
   ("float", .type "number"),
   ("list", .type anyArrayType), ("List", .type anyArrayType), ("tuple", .type anyArrayType),
   ("Tuple", .type anyArrayType), ("set", .type anyArrayType), ("Set", .type anyArrayType),
   ("Sequence", .type anyArrayType), ("Iterable", .type anyArrayType),
   ("dict", .type mappingType), ("Dict", .type mappingType), ("Mapping", .type mappingType),
   ("None", .vague), ("NoneType", .vague), ("Any", .vague), ("object", .vague),
   ("Optional", .vague), ("Union", .vague)]

def isQuote (c : Char) : Bool := c == '"' || c == '\''

def stripQuotes (s : List Char) : List Char :=
  ((s.dropWhile isQuote).reverse.dropWhile isQuote).reverse

/-- Names joined by points. -/
def isDottedName (s : List Char) : Bool :=
  (splitBy (· == '.') s).all fun part =>
    (part.head?.map isWordStart).getD false && part.all isWordChar

/-- What follows the last point. -/
def lastName (s : List Char) : List Char := ((splitBy (· == '.') s).getLast?).getD s

/-- The base of an annotation and whether it has a subscript. A subscript ends the annotation. -/
def annotationBase? (s : List Char) : Option (List Char × Bool) :=
  match s.dropWhile (· != '[') with
  | [] => some (s, false)
  | _ :: rest =>
    if rest.getLast? = some ']' then some (trimChars (s.takeWhile (· != '[')), true) else none

/-- The type that a declared return annotation stands for. A name without a meaning of its own is
taken for the name of a type, unless it has a subscript. -/
def annotationType? (written : String) : Option String := do
  let (base, subscripted) ← annotationBase? (stripQuotes (trimChars written.toList))
  if isDottedName base then
    let name := String.ofList (lastName base)
    match annotated.lookup name with
    | some (.type t) => some t
    | some .vague => none
    | none => if subscripted then none else some name
  else none

/-- The expression of a line that is a `return` statement. -/
def returned? (line : List Char) : Option (List Char) :=
  match trimChars line with
  | 'r' :: 'e' :: 't' :: 'u' :: 'r' :: 'n' :: rest =>
    if (rest.head?.map isWordChar).getD false then none else some (trimChars rest)
  | _ => none

/-- Digits with at most one sign before them and one point between them. -/
def isNumericLiteral (s : List Char) : Bool :=
  let digits :=
    match s with
    | '-' :: rest | '+' :: rest => rest
    | _ => s
  let (whole, rest) := digits.span isDigit
  !whole.isEmpty &&
    match rest with
    | [] => true
    | '.' :: fraction => !fraction.isEmpty && fraction.all isDigit
    | _ => false

/-- The type that the shape of an expression suggests. The tests are tried in this order. -/
def expressionType? (s : List Char) : Option String :=
  if s.contains '\x7b' && s.contains '\x7d' then some mappingType
  else if s.contains '[' && s.contains ']' then some anyArrayType
  else if s.any isQuote then some "string"
  else if isNumericLiteral s then some "number"
  else if containsWord s "True".toList || containsWord s "False".toList then some "boolean"
  else none

/-- The type that the last `return` statement of a method's text suggests. -/
def sourceType? (source : String) : Option String := do
  let expression ← ((lines source.toList).filterMap returned?).getLast?
  expressionType? expression

/-- Goes by the annotation if there is one, and else by the text. -/
def heuristic : Inferrer := fun m =>
  match m.annotation? with
  | some written => annotationType? written
  | none => m.source.bind sourceType?

/-- The type of a computed field: what is inferred for the method behind it. -/
def computedType (infer : Inferrer) (owner : Entity) (f : Field) : String :=
  ((owner.method? f.methodName).bind infer).getD anyType

end SchemaInterfaces.TypeScript
