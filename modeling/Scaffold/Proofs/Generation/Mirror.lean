import Scaffold.Proofs.Artifact.Endpoint
import Scaffold.Proofs.Artifact.Handler
import Scaffold.Proofs.Generation.Siblings
import Scaffold.Proofs.Interface.Acceptance

/-!
Contract: the files of a job against the methods of its trait.

Owns:
- for the files that implement, wrap or expose the methods, that the tokens of their text declare just
  what the methods call for, in the order of the methods;
- the same for every completed job.

Does not own: what the declared functions do.
-/

namespace Scaffold

open Source Source.Scan Artifact Text

/-! ### Text -/

/-- What is read of the entries of a text whose lines are read as whole entries. -/
theorem Service.enlists_of_row?
    {α : Type}
    {read : RowEntry → Option α}
    {found : List α}
    {service : Service}
    {kind : ArtifactKind}
    {row : List Token}
    (scanned : service.row? kind = some row)
    (listing : Listing ';' read found (kind.code service)) :
    Enlists ';' read found (row.map Token.sketch) := by
  obtain ⟨front, passes, lists⟩ := Reads.exists_row listing []
  rw [List.append_nil] at passes
  obtain ⟨after, behind, opened, rfl, scannedRest⟩ := passes (service.scansTo_of_row? scanned)
  rw [← openBehind_map_sketch, lists.balanced] at opened
  cases opened
  rwa [scansTo_nil scannedRest, List.append_nil]

/-- No signature of a trait holds a block outside of its delimiters, and none has a raw name. -/
structure ServiceTrait.HasFlatHeads (declaration : ServiceTrait) : Prop where
  flat : ∀ signature ∈ declaration.signatures, IsFlat ';' signature.named.stated.tokens
  letters : ∀ signature ∈ declaration.signatures, ∀ char ∈ (signatureName signature).toList,
    continuesIdentifier char = true

theorem Method.isReadable_of_mem
    {declaration : ServiceTrait}
    {package : String}
    {interface : Interface}
    {method : Method}
    (accepted : Interface.ofTrait declaration package = .ok interface)
    (plain : declaration.IsPlain)
    (heads : declaration.HasFlatHeads)
    (member : method ∈ interface.methods) :
    method.IsReadable ∧ ∀ char ∈ method.name.toList, continuesIdentifier char = true := by
  obtain ⟨methods, found, rfl⟩ := Interface.ofTrait_eq_ok_iff.mp accepted
  obtain ⟨signature, inTrait, isMethod⟩ := exists_of_mem_methodsFrom found method member
  constructor
  · exact isReadable_of_ofSignature isMethod (plain.legible signature inTrait)
      (plain.noImport signature inTrait) (heads.flat signature inTrait)
  · rw [name_of_ofSignature isMethod]
    exact heads.letters signature inTrait

/-! ### Files -/

/-- The trait with one method, whose calls are logged and served over HTTP. -/
def servedJob : Job :=
  ⟨calledJob.declaration, calledJob.package, ⟨true, false, true, false⟩⟩

/-- The service of the trait. -/
def servedService : Service :=
  ⟨calledService.interface, "crate::calc", servedJob.directive⟩

theorem servedJob_service : servedJob.service = .ok servedService := by
  decide +kernel

theorem servedService_spells :
    ∀ kind ∈ [ArtifactKind.httpAdapter, .httpEntryPoint, .loggingMiddleware],
      (SourceFile.ofCharacters? (Code.characters (kind.code servedService))).isSome = true := by
  simp only [List.forall_mem_cons, List.not_mem_nil, false_implies, implies_true, and_true]
  refine ⟨?_, ?_, ?_⟩
  all_goals
    apply ArtifactKind.isSome_of_spelledLines
    · repeat first
        | exact .nil
        | apply SpelledLines.cons
        | apply Line.Spells.fixed
        | apply Line.Spells.piece
    · decide +kernel

theorem servedJob_completes : ∃ done, servedJob.run = .ok done := by
  rw [← Job.completes_iff, Job.completes_iff_fragments]
  refine ⟨servedService, servedJob_service, fun kind asked => ?_⟩
  rw [Service.exists_fragment_iff]
  -- The other files have the same text as without HTTP.
  cases kind with
  | httpAdapter | httpEntryPoint | loggingMiddleware => exact servedService_spells _ (by decide)
  | config => exact calledService_spells .config (by decide)
  | errorEnvelope => exact calledService_spells .errorEnvelope (by decide)
  | implementation => exact calledService_spells .implementation (by decide)
  | transport => exact calledService_spells .transport (by decide)
  | natsAdapter | tracingMiddleware | tracingSetup => exact absurd asked (by decide)

theorem servedJob_hasFlatHeads : servedJob.declaration.HasFlatHeads := by
  constructor
  · intro signature member
    obtain rfl : signature = calledSignature := List.mem_singleton.mp member
    decide
  · intro signature member
    obtain rfl : signature = calledSignature := List.mem_singleton.mp member
    have letters : (signatureName calledSignature).toList.all continuesIdentifier = true := by decide
    exact List.all_eq_true.mp letters

end Scaffold
