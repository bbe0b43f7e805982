import Scaffold.Files.Tree
import Scaffold.Main
import Scaffold.Proofs.Artifact.Address
import Scaffold.Proofs.Artifact.Envelope
import Scaffold.Proofs.Artifact.Growth
import Scaffold.Proofs.Artifact.Middleware
import Scaffold.Proofs.Command.DryRun
import Scaffold.Proofs.Directive
import Scaffold.Proofs.Generation.Contract
import Scaffold.Proofs.Generation.Declarations
import Scaffold.Proofs.Generation.Discovery
import Scaffold.Proofs.Generation.Interruption
import Scaffold.Proofs.Generation.Isolation
import Scaffold.Proofs.Generation.Mirror
import Scaffold.Proofs.Generation.Outcome
import Scaffold.Proofs.Generation.Repetition
import Scaffold.Proofs.Generation.Run
import Scaffold.Proofs.Generation.Scope
import Scaffold.Proofs.Generation.Sharing
import Scaffold.Proofs.Generation.Siblings
import Scaffold.Proofs.Interface.Acceptance
import Scaffold.Proofs.Interface.Signature
import Scaffold.Proofs.Interface.TypeRef
import Scaffold.Proofs.Package
import Scaffold.Proofs.Settings.Layer
import Scaffold.Proofs.Text.KeptWords
