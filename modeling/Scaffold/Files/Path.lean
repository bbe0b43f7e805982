import Scaffold.Text.Pieces

/-!
Contract: file paths as text, cut at slashes.

Owns:
- the parent, the last name and the stem of a path;
- the join of two paths;
- the steps that a path takes through directories.

A path keeps its spelling: empty steps and steps to the same directory are passed over when
a path is read, and stay where they are when one is cut or joined. Nothing here looks at any
directory.
-/

namespace Scaffold

/-- A path in its own spelling. -/
structure Path where
  text : String
  deriving DecidableEq, Repr, Inhabited

/-- One step of a path through directories. -/
inductive Path.Step where
  | root
  | stay
  | up
  | down (name : String)
  deriving DecidableEq, Repr

namespace Path

/-- The start of a path that is no ordinary name: the root, or the current directory when
the path spells it. -/
def lead (path : Path) : List Char :=
  match path.text.toList with
  | '/' :: _ => ['/']
  | ['.'] => ['.']
  | '.' :: '/' :: _ => ['.']
  | _ => []

/-- The pieces of a path between slashes, behind its lead. -/
def pieces (path : Path) : List (List Char) :=
  Text.splitAtAll (· == '/') (path.text.toList.drop path.lead.length)

/-- A piece that names nothing: an empty one, or the current directory. -/
def isIdlePiece (piece : List Char) : Bool :=
  piece.isEmpty || piece == ['.']

/-- The pieces up to the last one that names something, last one first. -/
def activeReversed (path : Path) : List (List Char) :=
  path.pieces.reverse.dropWhile isIdlePiece

/-- Put pieces, last one first, behind the lead of a path. -/
def rebuild
    (path : Path)
    (reversed : List (List Char)) :
    Path :=
  ⟨String.ofList (path.lead ++ (reversed.reverse.intersperse ['/']).flatten)⟩

/-- The path without its last step; the root and the empty path have none to take away. -/
def parent? (path : Path) : Option Path :=
  match path.activeReversed with
  | _ :: before => some (path.rebuild (before.dropWhile isIdlePiece))
  | [] => if path.lead = ['.'] then some ⟨""⟩ else none

/-- A path, the path without its last step, and so on up to where nothing is left. `fuel` bounds
their number. -/
def ancestorsUpTo : Nat → Path → List Path
  | 0, _ => []
  | fuel + 1, path =>
      if path.text.isEmpty then []
      else
        match path.parent? with
        | some outer => path :: ancestorsUpTo fuel outer
        | none => [path]

/-- A path and all paths that it becomes by taking steps away from its end, the empty one apart. -/
def ancestors (path : Path) : List Path :=
  ancestorsUpTo (path.text.length + 1) path

/-- The name that the last step goes down to. -/
def fileName? (path : Path) : Option String :=
  match path.activeReversed with
  | last :: _ => if last = ['.', '.'] then none else some (String.ofList last)
  | [] => none

/-- A file name up to its last dot; a dot in front does not count. -/
def stemOf (name : String) : String :=
  let reversed := name.toList.reverse
  let stem := ((reversed.dropWhile (· != '.')).drop 1).reverse
  if stem.isEmpty then name else String.ofList stem

/-- The last name of a path up to its last dot. -/
def stem? (path : Path) : Option String :=
  path.fileName?.map stemOf

/-- Does the path begin at the root? -/
def isAbsolute (path : Path) : Bool :=
  path.lead == ['/']

/-- `path` with `rest` behind it. A slash is put between the two unless the first ends in one
or is empty; a `rest` from the root stands for itself. -/
def join
    (path rest : Path) :
    Path :=
  if rest.isAbsolute then rest
  else
    match path.text.toList.reverse with
    | [] => rest
    | '/' :: _ => ⟨path.text ++ rest.text⟩
    | _ => ⟨path.text ++ "/" ++ rest.text⟩

/-- Is there no character in the path? -/
def isEmpty (path : Path) : Bool :=
  path.text.isEmpty

/-- What a piece between slashes does. -/
def stepOf (piece : List Char) : Step :=
  if isIdlePiece piece then .stay
  else if piece = ['.', '.'] then .up
  else .down (String.ofList piece)

/-- The steps of a path, idle ones included. -/
def steps (path : Path) : List Step :=
  (if path.isAbsolute then [Step.root] else []) ++
    (Text.splitAtAll (· == '/') path.text.toList).map stepOf

end Path

end Scaffold
