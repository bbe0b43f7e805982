import Scaffold.Files.Path
import Scaffold.Text.Blank
import Scaffold.Text.Words

/-!
Contract: the package that owns a source file, found from where the file lies.

Owns:
- the name of the package and its path in the module tree;
- the directory that generated files go to when none is given.
-/

namespace Scaffold

/-- The owner of a source file: its module path and its name. -/
structure Package where
  path : String
  name : String
  deriving DecidableEq, Repr, Inhabited

namespace Package

/-- The name of the package of an input file: its directory's name, or the file's own stem
where the directory has none, in snake case. -/
def nameFor (input : Path) : String :=
  let directoryName := input.parent?.bind Path.fileName?
  Text.snakeCase ((directoryName <|> input.stem?).getD "")

/-- The package of an input file in the tree below `module`. The package's name is added
behind `module`, unless `module` ends in it already; blanks around `module` and colon pairs
at its end do not count. -/
def resolve
    (module : String)
    (input : Path) :
    Package :=
  let name := nameFor input
  let base := Text.trimEnding "::" (Text.trim module)
  let path :=
    if base.isEmpty then name
    else if Text.lastPiece "::" base == name then base
    else base ++ "::" ++ name
  ⟨path, name⟩

/-- The directory of an input file, or the current directory for a bare file name. -/
def directoryFor (input : Path) : Path :=
  match input.parent? with
  | some parent => if parent.isEmpty then ⟨"."⟩ else parent
  | none => ⟨"."⟩

end Package

end Scaffold
