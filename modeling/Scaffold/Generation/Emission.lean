import Scaffold.Artifact.Content
import Scaffold.Failure
import Scaffold.Files.Storage

/-!
Contract: generated files put where files are kept.

Owns:
- the path of a task's file below the output root;
- writing it, unless it holds the same text already;
- the temporary file by way of which it is written.

A text is written to a temporary file in the directory of its path, and this takes the place of
the file at the path in one step. So a file is replaced as a whole, and whatever fails leaves
every file with its old or its new content.
-/

namespace Scaffold

/-- What became of a generated file: new content was written, or the file held it already. -/
inductive EmitStatus where
  | written
  | unchanged
  deriving DecidableEq, Repr

/-- A generated file that is in place. -/
structure EmittedFile where
  path : Path
  status : EmitStatus
  deriving DecidableEq, Repr

variable {m : Type → Type} [Monad m] [Storage m]

/-- The directory that the file at a path stands in. -/
def Path.directory (path : Path) : Path :=
  match path.parent? with
  | some outer => if outer.isEmpty then ⟨"."⟩ else outer
  | none => ⟨"."⟩

/-- How many names are tried for a temporary file. -/
def temporaryAttempts : Nat := 65536

/-- The path of a temporary file in a directory. -/
def temporaryPath (directory : Path) (number : Nat) : Path :=
  directory.join ⟨".tmp" ++ toString number⟩

/-- Make a temporary file in a directory, under the first number from `number` on whose path is
free. `attempts` bounds how many are tried. -/
def createTemporary (directory : Path) : (attempts number : Nat) → m (Except Fault Path)
  | 0, _ => return .error .alreadyExists
  | attempts + 1, number => do
      let path := temporaryPath directory number
      match ← (Storage.createFile path : m (Except Fault Unit)) with
      | .ok () => return .ok path
      | .error .alreadyExists => createTemporary directory attempts (number + 1)
      | .error fault => return .error fault

/-- Write a text to a temporary file and move this to the path that the text is for. -/
def fillAndMove (temporary path : Path) (text : String) : ExceptT Fault m Unit := do
  ExceptT.mk (Storage.writeText temporary text : m (Except Fault Unit))
  ExceptT.mk (Storage.sync temporary : m (Except Fault Unit))
  ExceptT.mk (Storage.permit temporary : m (Except Fault Unit))
  ExceptT.mk (Storage.rename temporary path : m (Except Fault Unit))

/-- Put a text in the place of what a path holds, by way of a temporary file that goes where
anything fails. -/
def replaceFile (path : Path) (text : String) : m (Except Fault Unit) := do
  match ← (createTemporary path.directory temporaryAttempts 0 : m (Except Fault Path)) with
  | .error fault => return .error fault
  | .ok temporary =>
      match ← ((fillAndMove temporary path text).run : m (Except Fault Unit)) with
      | .ok () => return .ok ()
      | .error fault =>
          (Storage.discard temporary : m Unit)
          return .error fault

/-- Write a text to a path, unless the file there holds it already. -/
def writeChanged (path : Path) (text : String) : ExceptT Failure m EmitStatus := do
  let held ← (Storage.readText path : m (Except Fault String))
  match held with
  | .ok old =>
      if old = text then return .unchanged
      else replaceWith path text
  | .error _ => replaceWith path text
where
  /-- Put the text in the place of what the path holds. -/
  replaceWith (path : Path) (text : String) : ExceptT Failure m EmitStatus := do
    let done ← (replaceFile path text : m (Except Fault Unit))
    match done with
    | .ok () => return .written
    | .error fault => throw (.fileWrite path fault)

/-- Make the directory that a file is to stand in. -/
def makeDirectoryFor (path : Path) : ExceptT Failure m Unit := do
  match path.parent? with
  | none => return ()
  | some directory =>
      let done ← (Storage.makeDirectories directory : m (Except Fault Unit))
      match done with
      | .ok () => return ()
      | .error fault => throw (.directoryCreate directory fault)

/-- The path of a task's file below a root. -/
def ArtifactTask.target (task : ArtifactTask) (root : Path) : Path :=
  root.join task.kind.relativePath

/-- Put the file of a task in place below a root. -/
def ArtifactTask.emit (root : Path) (task : ArtifactTask) : ExceptT Failure m EmittedFile := do
  let path := task.target root
  makeDirectoryFor path
  let status ← writeChanged path task.content
  return ⟨path, status⟩

end Scaffold
