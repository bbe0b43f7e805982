import Scaffold.Proofs.Artifact.Templates

/-!
Contract: the imports of the files of a job from each other.

Owns:
- the tokens of the text of a file;
- for every kind of file that a service has, that these tokens import only what the service has and
  declare the names of the kind;
- for every completed job, that what its files import from generated modules of their package is
  there.

Does not own: imports of anything else.
-/

namespace Scaffold

open Source Source.Scan Source.Token Artifact

/-! ### Text as tokens -/

/-- The tokens of the text of a kind for a service. -/
def Service.row? (service : Service) (kind : ArtifactKind) : Option (List Token) :=
  Scan.tokens? (withoutInterpreter (withoutByteOrderMark (Code.characters (kind.code service))))

theorem scansTo_nil {row : List Token} (scanned : ScansTo [] [] row) : row = [] := by
  obtain ⟨gap, fuel, blank, enough, scanned⟩ := scanned
  rw [List.append_nil] at scanned enough
  rw [scans_gap blank fuel enough] at scanned
  exact (Option.some.inj scanned).symm

variable {service : Service} {kind : ArtifactKind}

/-- The tokens of a text are those of its lines. -/
theorem Service.scansTo_of_row?
    {row : List Token}
    (scanned : service.row? kind = some row) :
    ScansTo [] (((kind.code service).flatMap Code.lines).flatMap fun line => line.characters ++ ['\n'])
      row := by
  obtain ⟨line, lines, same, isFirst⟩ := kind.exists_first_line service
  obtain ⟨char, behind, spelled, plain⟩ : ∃ char behind,
      Code.characters (kind.code service) = char :: behind ∧ (char = '\n' ∨ char = 'u') := by
    rw [Code.characters_of_lines same, List.flatMap_cons]
    rcases isFirst with empty | ⟨behind, begins⟩
    · exact ⟨'\n', _, by rw [empty]; rfl, .inl rfl⟩
    · exact ⟨'u', _, by rw [begins]; rfl, .inr rfl⟩
  have noMark : withoutByteOrderMark (char :: behind) = char :: behind := by
    rcases plain with rfl | rfl <;> rfl
  have noInterpreter : withoutInterpreter (char :: behind) = char :: behind := by
    rcases plain with rfl | rfl <;> rfl
  rw [Service.row?, spelled, noMark, noInterpreter] at scanned
  have scans := scansTo_of_tokens? scanned
  rwa [noMark, ← spelled, Code.characters_of_lines same, ← same] at scans

theorem Directive.http_of_mem
    {directive : Directive}
    (asked : .httpAdapter ∈ directive.artifactKinds ∨ .httpEntryPoint ∈ directive.artifactKinds) :
    directive.http = true := by
  obtain ⟨http, nats, logging, tracing⟩ := directive
  revert http nats logging tracing
  decide

theorem Directive.nats_of_mem
    {directive : Directive}
    (asked : .natsAdapter ∈ directive.artifactKinds) :
    directive.nats = true := by
  obtain ⟨http, nats, logging, tracing⟩ := directive
  revert http nats logging tracing
  decide

/-- The lines of every kind that a service has import from below its package what the service has, and
declare the names of the kind. -/
theorem ArtifactKind.comply
    {path : ModulePath}
    (asked : kind ∈ service.options.artifactKinds)
    (below : service.IsBelow path)
    (sound : service.IsSound) :
    Comply (service.Resolves path) [] [] (service.declaredNames kind)
      ((kind.code service).flatMap Code.lines) := by
  have foreign := service.allowsForeign path
  cases kind with
  | implementation => exact Template.implementation_comply below sound
  | errorEnvelope => exact Template.errorEnvelope_comply foreign
  | transport => exact Template.transport_comply below sound
  | httpAdapter => exact Template.httpAdapter_comply below sound (Directive.http_of_mem (.inl asked))
  | natsAdapter => exact Template.natsAdapter_comply below sound (Directive.nats_of_mem asked)
  | loggingMiddleware => exact Template.loggingMiddleware_comply below sound
  | tracingMiddleware => exact Template.tracingMiddleware_comply below sound
  | tracingSetup => exact Template.tracingSetup_comply foreign service.options.http service.options.nats
  | config => exact Template.config_comply foreign sound.description
  | httpEntryPoint =>
      exact Template.httpEntryPoint_comply below sound (Directive.http_of_mem (.inr asked))

/-- The service of a job that completed. -/
def Job.completedService (job : Job) (done : CompletedJob) : Service :=
  ⟨done.interface, job.package.path, job.directive⟩

theorem Job.service_eq_completedService
    {job : Job}
    {done : CompletedJob}
    (completed : job.run = .ok done) :
    Interface.ofTrait job.declaration job.package.name = .ok (job.completedService done).interface
      ∧ (job.completedService done).Renders job.directive.artifactKinds done.tasks := by
  obtain ⟨service, extracted, same, rendered⟩ := run_eq_ok.mp completed
  obtain ⟨interface, accepted, returned⟩ := except_bind_eq_ok.mp extracted
  cases returned
  have whole : job.completedService done = ⟨interface, job.package.path, job.directive⟩ := by
    rw [completedService, same]
  rw [whole]
  exact ⟨accepted, rendered⟩

/-- The signature `fn f(&self)`. -/
def calledSignature : Node .signature :=
  .functionSignature ⟨false, false, false, none⟩ "f" (.genericList false .nil false .absent false)
    (.ofList [.selfParameter .nil (some none) false .absent]) false .absent

/-- A trait with one method, whose service answers on NATS. -/
def calledJob : Job :=
  ⟨⟨"Calc", [calledSignature], false⟩, ⟨"crate::calc", "calc"⟩, ⟨false, true, false, false⟩⟩

/-- The service of the trait. -/
def calledService : Service :=
  ⟨⟨"Calc", "calc", [⟨"f", "fn f(&self)", "(&self)", false, none, [], [], false, "()"⟩], false⟩,
    "crate::calc", calledJob.directive⟩

theorem calledJob_isPlain : calledJob.declaration.IsPlain := by
  have empty : Token.IsKept [] [] := ⟨.nil, rfl⟩
  have only : ∀ signature ∈ calledJob.declaration.signatures, signature = calledSignature := by
    simp [calledJob]
  refine ⟨by decide, by decide, by decide, by decide, ?_, ?_⟩
  · intro signature member
    rw [only signature member]
    refine ⟨by decide, empty, empty, ?_, ?_⟩
    · intro parameter isParameter
      obtain rfl : parameter = .selfParameter .nil (some none) false .absent :=
        List.mem_singleton.mp isParameter
      exact ⟨⟨by decide, by decide, by decide, by decide⟩, rfl⟩
    · rintro _ ⟨⟩
  · intro signature member
    rw [only signature member]
    decide

theorem calledService_spells :
    ∀ kind ∈ calledJob.directive.artifactKinds,
      (SourceFile.ofCharacters? (Code.characters (kind.code calledService))).isSome = true := by
  have kinds : calledJob.directive.artifactKinds
      = [.config, .errorEnvelope, .implementation, .natsAdapter, .transport] := by decide
  simp only [kinds, List.forall_mem_cons, List.not_mem_nil, false_implies, implies_true, and_true]
  refine ⟨?_, ?_, ?_, ?_, ?_⟩
  all_goals
    apply ArtifactKind.isSome_of_spelledLines
    · repeat first
        | exact .nil
        | apply SpelledLines.cons
        | apply Line.Spells.fixed
        | apply Line.Spells.piece
    · decide +kernel

/-- The path of the package of the trait. -/
def calledPath : ModulePath :=
  ⟨false, ["crate", "calc"]⟩

end Scaffold
