import Scaffold.Generation.Build
import Scaffold.Generation.Emission

/-!
Contract: a whole generation run.

Owns:
- loading a source file;
- folding the tasks of all completed jobs into one task for each kind;
- emitting each of these once, in the order of their kinds.

Jobs are built before anything is written. A job that fails costs only itself; a source file
that cannot be loaded and a generated file that cannot be put in place end the run.
-/

namespace Scaffold

open Source

/-- What a run did: the files in place, the jobs that failed, and what was passed over. -/
structure GenerationReport where
  emitted : List EmittedFile
  failed : List JobFailure
  skipped : List SkippedDeclaration
  deriving DecidableEq, Repr

/-- Was every interface that asks for it generated? -/
def GenerationReport.isSuccess (report : GenerationReport) : Bool :=
  report.failed.isEmpty

/-- The tasks of all completed jobs, one for each kind that any of them selected, in the order
of kinds. -/
def Build.accumulated (build : Build) : List ArtifactTask :=
  let tasks := build.completed.flatMap CompletedJob.tasks
  (ArtifactKind.distinct (tasks.map ArtifactTask.kind)).map fun kind =>
    (tasks.filter fun task => task.kind == kind).foldl ArtifactTask.absorb (.empty kind)

variable {m : Type → Type} [Monad m] [Storage m]

/-- Load the source file at a path. -/
def loadSource (path : Path) : ExceptT Failure m SourceFile := do
  let read ← (Storage.readText path : m (Except Fault String))
  match read with
  | .error fault => throw (.inputRead path fault)
  | .ok text =>
      match SourceFile.ofText? text with
      | some file => return file
      | none => throw (.parse path)

/-- Generate everything that a file asks for below a root. -/
def generate
    (package : Package)
    (root : Path)
    (file : SourceFile) :
    ExceptT Failure m GenerationReport := do
  let build := Build.ofItems package file.items
  let emitted ← build.accumulated.mapM (ArtifactTask.emit root)
  return ⟨emitted, build.failed, build.skipped⟩

/-- Generate everything that the file at a path asks for below a root. -/
def generateFrom
    (package : Package)
    (root input : Path) :
    ExceptT Failure m GenerationReport := do
  generate package root (← loadSource input)

end Scaffold
