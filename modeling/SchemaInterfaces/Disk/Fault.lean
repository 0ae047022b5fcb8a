/-! Why an operation on files fails. -/

namespace SchemaInterfaces.Disk

inductive Fault where
  | notFound
  | alreadyExists
  | notFolder
  | isFolder
  | nameTooLong
  /-- The name holds a character that no file name may hold. -/
  | nulInName
  | notText
deriving Repr, DecidableEq

def Fault.message : Fault → String
  | notFound => "No such file or directory (os error 2)"
  | alreadyExists => "File exists (os error 17)"
  | notFolder => "Not a directory (os error 20)"
  | isFolder => "Is a directory (os error 21)"
  | nameTooLong => "File name too long (os error 36)"
  | nulInName => "file name contained an unexpected NUL byte"
  | notText => "stream did not contain valid UTF-8"

/-- An operation that may fail, and that leaves its mark on the state even then. -/
abbrev Action (σ α : Type) := σ → Except Fault α × σ

end SchemaInterfaces.Disk
