/-!
Contract: references to types by name.

Owns:
- plain and qualified names of types, and their text.
-/

namespace Scaffold

/-- A type that generated text can name: by a bare name, or by a name in a namespace. -/
inductive TypeRef where
  | simple (name : String)
  | qualified (namespacePath : String) (name : String)
  deriving DecidableEq, Repr, Inhabited

namespace TypeRef

/-- The name of the type without its namespace. -/
def name : TypeRef → String
  | .simple name => name
  | .qualified _ name => name

/-- The word for the form of a reference. -/
def form : TypeRef → String
  | .simple _ => "simple"
  | .qualified _ _ => "qualified"

/-- The text that names the type. -/
def text : TypeRef → String
  | .simple name => name
  | .qualified namespacePath name => namespacePath ++ "::" ++ name

/-- The type without a value to tell. -/
def unit : TypeRef := .simple "()"

end TypeRef

end Scaffold
