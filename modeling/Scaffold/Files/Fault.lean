/-!
Contract: why an operation on files fails.
-/

namespace Scaffold

/-- The causes for which an operation on files fails. -/
inductive Fault where
  /-- A step of the path does not exist. -/
  | notFound
  /-- A file is wanted where a directory is. -/
  | isADirectory
  /-- A directory is wanted where a file is. -/
  | notADirectory
  /-- Something else is in the place of what is to be made. -/
  | alreadyExists
  /-- The contents are no text. -/
  | invalidData
  deriving DecidableEq, Repr

end Scaffold
