import Scaffold.Artifact.Rendering
import Scaffold.Discovery

/-!
Contract: the jobs of a source file, built in memory.

Owns:
- the extraction of a job's interface and the rendering of all its files;
- the outcome of every job of a file.

A job that fails leaves nothing behind but its failure, and no other job notices.
-/

namespace Scaffold

open Source

/-- A job all of whose files are rendered, in the order of their kinds. -/
structure CompletedJob where
  interface : Interface
  tasks : List ArtifactTask

/-- The service that a job generates. -/
def Job.service (job : Job) : Except Failure Service := do
  let interface ← Interface.ofTrait job.declaration job.package.name
  return ⟨interface, job.package.path, job.directive⟩

/-- Build a job. -/
def Job.run (job : Job) : Except Failure CompletedJob := do
  let service ← job.service
  let tasks ← job.directive.artifactKinds.mapM fun kind =>
    (ArtifactTask.empty kind).renderAndMerge service
  return ⟨service.interface, tasks⟩

/-- A job that failed, and why. -/
structure JobFailure where
  interface : String
  failure : Failure
  deriving DecidableEq, Repr

/-- The outcomes of all jobs of a file, and what was passed over. -/
structure Build where
  completed : List CompletedJob
  failed : List JobFailure
  skipped : List SkippedDeclaration

/-- The completed job, if the job completed. -/
def completed? : Job × Except Failure CompletedJob → Option CompletedJob
  | (_, .ok done) => some done
  | (_, .error _) => none

/-- The failure of the job, if it failed. -/
def failed? : Job × Except Failure CompletedJob → Option JobFailure
  | (_, .ok _) => none
  | (job, .error failure) => some ⟨job.declaration.name, failure⟩

/-- Build all jobs among the items of a file. -/
def Build.ofItems (package : Package) (items : List (Node .item)) : Build :=
  let discovery := Discovery.ofItems package items
  let outcomes := discovery.jobs.map fun job => (job, job.run)
  ⟨outcomes.filterMap completed?, outcomes.filterMap failed?, discovery.skipped⟩

end Scaffold
