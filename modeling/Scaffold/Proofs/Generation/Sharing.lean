import Scaffold.Proofs.Artifact.Growth
import Scaffold.Proofs.Generation.Discovery
import Scaffold.Proofs.Generation.Run
import Scaffold.Proofs.Interface.Acceptance
import Scaffold.Proofs.TracingSetup

/-!
Contract: the files that the services of a source file share.

Owns:
- the declarations of a task that fragments were merged into;
- the jobs that select a kind, and what they contribute to it;
- the files that are the same for every service, and the one that depends on nothing but which wire
  adapters there are.

Does not own: the files that name an interface.
-/

namespace Scaffold

open Source

/-! ### Declarations of a task -/

namespace ArtifactTask

/-- The declarations that have accumulated. -/
def declarations (task : ArtifactTask) : List (List Token) :=
  task.toFile.declarations

theorem mem_map_appendNew
    {α β : Type}
    [BEq β]
    [LawfulBEq β]
    {spelling : α → β}
    {held elements : List α}
    {spelled : β} :
    spelled ∈ (appendNew (fun left right => spelling left == spelling right) held elements).map spelling
      ↔ spelled ∈ held.map spelling ∨ spelled ∈ elements.map spelling := by
  induction elements generalizing held with
  | nil => simp [appendNew]
  | cons element rest inductionHypothesis =>
      rw [appendNew, List.map_cons, List.mem_cons]
      split
      case isTrue isHeld =>
        obtain ⟨old, member, alike⟩ := List.any_eq_true.mp isHeld
        have held : spelling element ∈ held.map spelling :=
          eq_of_beq alike ▸ List.mem_map_of_mem member
        rw [inductionHypothesis]
        constructor
        · exact Or.imp_right .inr
        · rintro (inHeld | rfl | inRest)
          exacts [.inl inHeld, .inl held, .inr inRest]
      case isFalse =>
        rw [inductionHypothesis, List.map_append, List.mem_append, List.map_singleton,
          List.mem_singleton, or_assoc]

theorem mem_declarations_merge
    {task : ArtifactTask}
    {fragment : SourceFile}
    {declaration : List Token} :
    declaration ∈ (task.merge fragment).declarations
      ↔ declaration ∈ task.declarations ∨ declaration ∈ fragment.declarations :=
  mem_map_appendNew

theorem mem_declarations_foldl_merge
    {fragments : List SourceFile}
    {task : ArtifactTask}
    {declaration : List Token} :
    declaration ∈ (fragments.foldl merge task).declarations
      ↔ declaration ∈ task.declarations
        ∨ ∃ fragment ∈ fragments, declaration ∈ fragment.declarations := by
  induction fragments generalizing task with
  | nil => simp
  | cons fragment rest inductionHypothesis =>
      rw [List.foldl_cons, inductionHypothesis, mem_declarations_merge, or_assoc, List.exists_mem_cons_iff]

theorem apart_sameItem_iff {task : ArtifactTask} :
    Apart Node.sameItem task.items ↔ task.declarations.Nodup := by
  rw [Apart, declarations, SourceFile.declarations, List.Nodup, List.pairwise_map]
  simp only [Node.sameItem, beq_eq_false_iff_ne, toFile]

theorem nodup_declarations_merge
    {task : ArtifactTask}
    (apart : task.declarations.Nodup)
    (fragment : SourceFile) :
    (task.merge fragment).declarations.Nodup := by
  rw [← apart_sameItem_iff] at apart ⊢
  exact apart_appendNew apart fragment.items

theorem nodup_declarations_foldl_merge
    {task : ArtifactTask}
    (apart : task.declarations.Nodup)
    (fragments : List SourceFile) :
    (fragments.foldl merge task).declarations.Nodup := by
  induction fragments generalizing task with
  | nil => exact apart
  | cons fragment rest inductionHypothesis => exact inductionHypothesis (nodup_declarations_merge apart fragment)

/-- The task has the declarations of a file and no others, each of them once. -/
structure HoldsOnce (task : ArtifactTask) (file : SourceFile) : Prop where
  apart : task.declarations.Nodup
  same : ∀ declaration, declaration ∈ task.declarations ↔ declaration ∈ file.declarations

/-- A task has the declarations of a file once if fragments were merged into it that together have no
others. -/
theorem holdsOnce_foldl_merge
    {kind : ArtifactKind}
    {fragments : List SourceFile}
    {file : SourceFile}
    (together : ∀ declaration,
      (∃ fragment ∈ fragments, declaration ∈ fragment.declarations) ↔ declaration ∈ file.declarations) :
    (fragments.foldl merge (empty kind)).HoldsOnce file where
  apart := by
    have fresh : (empty kind).declarations.Nodup := List.nodup_nil
    exact nodup_declarations_foldl_merge fresh fragments
  same declaration := by
    rw [mem_declarations_foldl_merge, together]
    exact or_iff_right List.not_mem_nil

theorem holdsOnce_merge_empty (kind : ArtifactKind) (file : SourceFile) :
    ((empty kind).merge file).HoldsOnce file := by
  have together : ∀ declaration,
      (∃ fragment ∈ [file], declaration ∈ fragment.declarations) ↔ declaration ∈ file.declarations := by
    simp
  exact holdsOnce_foldl_merge together

theorem foldl_merge_of_holds
    {task : ArtifactTask}
    {fragments : List SourceFile}
    (holds : ∀ fragment ∈ fragments, task.Holds fragment) :
    fragments.foldl merge task = task := by
  induction fragments with
  | nil => rfl
  | cons fragment rest inductionHypothesis =>
      obtain ⟨holdsFirst, holdsRest⟩ := List.forall_mem_cons.mp holds
      rw [List.foldl_cons, merge_of_holds holdsFirst, inductionHypothesis holdsRest]

/-- Merging one fragment over and over comes to merging it once. -/
theorem foldl_merge_of_forall_eq
    {fragments : List SourceFile}
    {fragment : SourceFile}
    (member : fragment ∈ fragments)
    (alike : ∀ other ∈ fragments, other = fragment)
    (task : ArtifactTask) :
    fragments.foldl merge task = task.merge fragment := by
  cases fragments with
  | nil => contradiction
  | cons first rest =>
      obtain ⟨rfl, restAlike⟩ := List.forall_mem_cons.mp alike
      rw [List.foldl_cons]
      apply foldl_merge_of_holds
      intro other inRest
      exact restAlike other inRest ▸ holds_merge task first

end ArtifactTask

/-! ### Jobs that select a kind -/

theorem Discovery.package_of_mem_jobs
    {package : Package}
    {items : List (Node .item)}
    {job : Job}
    (found : job ∈ (Discovery.ofItems package items).jobs) :
    job.package = package := by
  simp only [ofItems, List.filterMap_map, List.mem_filterMap, Function.comp_apply] at found
  obtain ⟨item, -, found⟩ := found
  rw [Finding.ofItem] at found
  split at found
  · exact (Finding.job?_ofDeclaration_eq_some_iff.mp found).inPackage
  · cases found

/-- The service of a job names the package of the job and has its options. -/
theorem Job.of_service
    {job : Job}
    {service : Service}
    (extracted : job.service = .ok service) :
    service.interface.package = job.package.name ∧ service.options = job.directive := by
  obtain ⟨interface, accepted, returned⟩ := except_bind_eq_ok.mp extracted
  obtain ⟨methods, -, rfl⟩ := Interface.ofTrait_eq_ok_iff.mp accepted
  cases returned
  exact ⟨rfl, rfl⟩

/-- The jobs among the items of a file that complete and select a kind, in the order of the source. -/
def selectingJobs
    (package : Package)
    (items : List (Node .item))
    (kind : ArtifactKind) :
    List Job :=
  (Discovery.ofItems package items).jobs.filter fun job =>
    job.completes && job.directive.artifactKinds.contains kind

section Selecting

variable
  {package : Package}
  {items : List (Node .item)}
  {kind : ArtifactKind}
  {job : Job}

theorem mem_selectingJobs :
    job ∈ selectingJobs package items kind
      ↔ job ∈ (Discovery.ofItems package items).jobs
        ∧ job.completes = true ∧ kind ∈ job.directive.artifactKinds := by
  simp [selectingJobs]

theorem exists_rendering_of_mem_selectingJobs (selects : job ∈ selectingJobs package items kind) :
    ∃ service rendering, job.service = .ok service ∧ service.fragment kind = .ok rendering := by
  obtain ⟨-, completes, asked⟩ := mem_selectingJobs.mp selects
  obtain ⟨service, extracted, rendered⟩ := Job.completes_iff_fragments.mp completes
  obtain ⟨rendering, spelled⟩ := rendered kind asked
  exact ⟨service, rendering, extracted, spelled⟩

/-- What is contributed to a kind are the renderings by the jobs that select it. -/
theorem mem_fragmentsOf {fragment : SourceFile} :
    fragment ∈ fragmentsOf package items kind
      ↔ ∃ job ∈ selectingJobs package items kind, ∃ service,
          job.service = .ok service ∧ service.fragment kind = .ok fragment := by
  simp only [fragmentsOf, List.mem_filterMap, mem_selectingJobs, and_assoc]
  refine exists_congr fun job => and_congr_right fun _ => ?_
  rw [Job.fragment?, Option.ite_none_right_eq_some, Bool.and_eq_true, List.contains_iff_mem, and_assoc]
  refine and_congr_right fun _ => and_congr_right fun _ => ?_
  cases job.service with
  | error failure => simp
  | ok service => cases spelled : service.fragment kind <;> simp [spelled, Except.toOption]

/-- A run accumulates one task of a kind that a job selects. -/
theorem Build.filter_accumulated (selects : job ∈ selectingJobs package items kind) :
    (Build.ofItems package items).accumulated.filter (fun task => task.kind == kind)
      = [mergedTask package items kind] := by
  obtain ⟨found, completes, asked⟩ := mem_selectingJobs.mp selects
  have selected : kind ∈ selectedKinds package items := mem_selectedKinds.mpr ⟨job, found, completes, asked⟩
  have accumulated : (Build.ofItems package items).accumulated
      = (selectedKinds package items).map (mergedTask package items) := Build.accumulated_eq package items
  have kinds : (fun task : ArtifactTask => task.kind == kind) ∘ mergedTask package items
      = fun other => other == kind := by
    funext other
    rw [Function.comp_apply, mergedTask_kind]
  rw [accumulated, List.filter_map, kinds, List.filter_beq,
    List.count_eq_one_of_mem (selectedKinds_inKeyOrder package items).nodup selected]
  rfl

end Selecting

/-! ### Shared files -/

/-- The settings and the error envelope are the same for all services of a package. -/
theorem Service.fragment_of_samePackage
    {kind : ArtifactKind}
    (shared : kind = .config ∨ kind = .errorEnvelope)
    {service other : Service}
    (samePackage : service.interface.package = other.interface.package) :
    service.fragment kind = other.fragment kind := by
  rcases shared with rfl | rfl
  · simp only [fragment, ArtifactKind.render, ArtifactKind.code, samePackage]
  · rfl

theorem mergedTask_of_shared
    {package : Package}
    {items : List (Node .item)}
    {kind : ArtifactKind}
    (shared : kind = .config ∨ kind = .errorEnvelope)
    {job : Job}
    (selects : job ∈ selectingJobs package items kind)
    {service : Service}
    {rendering : SourceFile}
    (extracted : job.service = .ok service)
    (spelled : service.fragment kind = .ok rendering) :
    mergedTask package items kind = (ArtifactTask.empty kind).merge rendering := by
  have named : ∀ {job service}, job ∈ selectingJobs package items kind → job.service = .ok service →
      service.interface.package = package.name := by
    intro job service selects extracted
    rw [(Job.of_service extracted).1, Discovery.package_of_mem_jobs (mem_selectingJobs.mp selects).1]
  apply ArtifactTask.foldl_merge_of_forall_eq
  case member => exact mem_fragmentsOf.mpr ⟨job, selects, service, extracted, spelled⟩
  case alike =>
    intro fragment member
    obtain ⟨other, otherSelects, otherService, otherExtracted, otherSpelled⟩ := mem_fragmentsOf.mp member
    have same := Service.fragment_of_samePackage shared
      ((named selects extracted).trans (named otherSelects otherExtracted).symm)
    rw [spelled, otherSpelled] at same
    exact (Except.ok.inj same).symm

/-- What sets up tracing has the declarations of the exporter, and those of the adapters that there are. -/
theorem IsTracingSetup.mem_declarations
    {base ofHttp ofNats : List (List Token)}
    (isSetup : IsTracingSetup base ofHttp ofNats)
    {service : Service}
    {file : SourceFile}
    (spelled : service.fragment .tracingSetup = .ok file)
    (declaration : List Token) :
    declaration ∈ file.declarations
      ↔ declaration ∈ base
        ∨ (service.options.http = true ∧ declaration ∈ ofHttp)
        ∨ (service.options.nats = true ∧ declaration ∈ ofNats) := by
  obtain ⟨found, isFragment, -, groups⟩ := isSetup.2 service
  obtain rfl : found = file := Except.ok.inj (isFragment.symm.trans spelled)
  rw [groups, List.mem_append, List.mem_append]
  simp only [listIf, List.mem_ite_nil_right]

/-- The jobs that select the set-up of tracing contribute what a service declares that has the wire
adapters of all of them. -/
theorem exists_mem_fragmentsOf_tracingSetup
    {base ofHttp ofNats : List (List Token)}
    (isSetup : IsTracingSetup base ofHttp ofNats)
    {package : Package}
    {items : List (Node .item)}
    (selected : selectingJobs package items .tracingSetup ≠ [])
    {service : Service}
    (http : service.options.http
      = (selectingJobs package items .tracingSetup).any fun job => job.directive.http)
    (nats : service.options.nats
      = (selectingJobs package items .tracingSetup).any fun job => job.directive.nats)
    {file : SourceFile}
    (spelled : service.fragment .tracingSetup = .ok file)
    (declaration : List Token) :
    (∃ fragment ∈ fragmentsOf package items .tracingSetup, declaration ∈ fragment.declarations)
      ↔ declaration ∈ file.declarations := by
  rw [isSetup.mem_declarations spelled, http, nats, List.any_eq_true, List.any_eq_true]
  constructor
  · rintro ⟨fragment, member, declares⟩
    obtain ⟨job, selects, other, extracted, otherSpelled⟩ := mem_fragmentsOf.mp member
    rw [isSetup.mem_declarations otherSpelled, (Job.of_service extracted).2] at declares
    exact declares.imp_right (Or.imp (And.imp_left fun has => ⟨job, selects, has⟩)
      (And.imp_left fun has => ⟨job, selects, has⟩))
  · have contributes : ∀ job ∈ selectingJobs package items .tracingSetup,
        (declaration ∈ base ∨ (job.directive.http = true ∧ declaration ∈ ofHttp)
          ∨ (job.directive.nats = true ∧ declaration ∈ ofNats)) →
          ∃ fragment ∈ fragmentsOf package items .tracingSetup, declaration ∈ fragment.declarations := by
      intro job selects declares
      obtain ⟨other, fragment, extracted, otherSpelled⟩ := exists_rendering_of_mem_selectingJobs selects
      refine ⟨fragment, mem_fragmentsOf.mpr ⟨job, selects, other, extracted, otherSpelled⟩, ?_⟩
      rwa [isSetup.mem_declarations otherSpelled, (Job.of_service extracted).2]
    rintro (inBase | ⟨⟨job, selects, has⟩, inHttp⟩ | ⟨⟨job, selects, has⟩, inNats⟩)
    · obtain ⟨job, selects⟩ := List.exists_mem_of_ne_nil _ selected
      exact contributes job selects (.inl inBase)
    · exact contributes job selects (.inr (.inl ⟨has, inHttp⟩))
    · exact contributes job selects (.inr (.inr ⟨has, inNats⟩))

/-- The files that name no interface stay single, whichever jobs of a file complete. The task of the
settings, and that of the error envelope, is the one that any job which selects the kind renders by itself.
The task of the set-up of tracing has the declarations, each once, that are rendered for any service with
the wire adapters that one of the jobs has which select the kind. -/
theorem Build.shared_kinds_stay_single (package : Package) (items : List (Node .item)) :
    (∀ kind, kind = .config ∨ kind = .errorEnvelope →
        ∀ job ∈ selectingJobs package items kind, ∃ service rendering,
          job.service = .ok service ∧ service.fragment kind = .ok rendering
            ∧ (Build.ofItems package items).accumulated.filter (fun task => task.kind == kind)
              = [(ArtifactTask.empty kind).merge rendering]
            ∧ ((ArtifactTask.empty kind).merge rendering).HoldsOnce rendering)
      ∧ (selectingJobs package items .tracingSetup ≠ [] → ∃ task,
          (Build.ofItems package items).accumulated.filter (fun task => task.kind == .tracingSetup) = [task]
            ∧ ∀ service : Service,
              (service.options.http
                = (selectingJobs package items .tracingSetup).any fun job => job.directive.http) →
              (service.options.nats
                = (selectingJobs package items .tracingSetup).any fun job => job.directive.nats) →
              ∃ rendering, service.fragment .tracingSetup = .ok rendering ∧ task.HoldsOnce rendering) := by
  constructor
  · intro kind shared job selects
    obtain ⟨service, rendering, extracted, spelled⟩ := exists_rendering_of_mem_selectingJobs selects
    refine ⟨service, rendering, extracted, spelled, ?_, ?_⟩
    · rw [Build.filter_accumulated selects, mergedTask_of_shared shared selects extracted spelled]
    · exact ArtifactTask.holdsOnce_merge_empty kind rendering
  · intro selected
    obtain ⟨base, ofHttp, ofNats, isSetup⟩ := exists_isTracingSetup
    obtain ⟨job, selects⟩ := List.exists_mem_of_ne_nil _ selected
    refine ⟨_, Build.filter_accumulated selects, fun service http nats => ?_⟩
    obtain ⟨rendering, spelled, -⟩ := isSetup.2 service
    exact ⟨rendering, spelled, ArtifactTask.holdsOnce_foldl_merge
      (exists_mem_fragmentsOf_tracingSetup isSetup selected http nats spelled)⟩

end Scaffold
