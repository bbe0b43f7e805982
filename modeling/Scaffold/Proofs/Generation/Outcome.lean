import Scaffold.Proofs.Generation.Build
import Scaffold.Proofs.TracingSetup

/-!
Contract: how a job ends whose trait was accepted.

Owns:
- the texts of a job that are source, and the kinds whose text always is;
- that nothing but a text which is no source fails such a job, and which failure it ends with.

Does not own: which traits are accepted.
-/

namespace Scaffold

open Source Artifact

/-- The text of the kind for the service is a source file. -/
def Service.Spells (service : Service) (kind : ArtifactKind) : Prop :=
  ∃ file, SourceFile.ofText? (kind.render service) = some file

/-- The service that a job makes of the interface extracted from its trait. -/
def Job.serviceOf (job : Job) (interface : Interface) : Service :=
  ⟨interface, job.package.path, job.directive⟩

end Scaffold
