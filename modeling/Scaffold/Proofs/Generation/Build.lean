import Scaffold.Generation.Run
import Scaffold.Proofs.Artifact.Accumulation
import Scaffold.Proofs.Artifact.Rendering
import Scaffold.Proofs.Failure

/-!
Contract: what the jobs of a file contribute to each kind.

Owns:
- the kinds in the order of keys, each once;
- when a job completes, and the tasks it completes with;
- the fragments of a kind in the order of the source, and what a run accumulates from them.

Does not own: where the accumulated files are put.
-/

namespace Scaffold

open Source

/-! ### Kinds -/

namespace ArtifactKind

theorem mem_all (kind : ArtifactKind) : kind ∈ all := by
  cases kind <;> decide

theorem mem_distinct {kind : ArtifactKind} {kinds : List ArtifactKind} :
    kind ∈ distinct kinds ↔ kind ∈ kinds := by
  simp [distinct, mem_all]

/-- Kinds stand in strictly increasing order of their keys. -/
def InKeyOrder (kinds : List ArtifactKind) : Prop :=
  kinds.Pairwise fun kind later => kind.key < later.key

theorem all_inKeyOrder : InKeyOrder all := by
  rw [InKeyOrder]
  decide

theorem distinct_inKeyOrder (kinds : List ArtifactKind) : InKeyOrder (distinct kinds) :=
  all_inKeyOrder.filter _

theorem InKeyOrder.nodup {kinds : List ArtifactKind} (ordered : InKeyOrder kinds) :
    kinds.Nodup := by
  apply ordered.imp
  intro kind later before same
  rw [same] at before
  exact String.lt_irrefl later.key before

end ArtifactKind

/-! ### One job -/

/-- Does the job complete? -/
def Job.completes (job : Job) : Bool :=
  match job.run with
  | .ok _ => true
  | .error _ => false

theorem Job.completes_iff {job : Job} :
    job.completes = true ↔ ∃ done, job.run = .ok done := by
  rw [completes]
  cases job.run <;> simp

theorem renderAndMerge_eq_ok {kind : ArtifactKind} {service : Service} {task : ArtifactTask} :
    (ArtifactTask.empty kind).renderAndMerge service = .ok task
      ↔ ∃ fragment, service.fragment kind = .ok fragment
          ∧ task = (ArtifactTask.empty kind).merge fragment := by
  rw [ArtifactTask.renderAndMerge, except_bind_eq_ok]
  simp only [pure, Except.pure, Except.ok.injEq]
  constructor
  · rintro ⟨fragment, spelled, rfl⟩
    exact ⟨fragment, spelled, rfl⟩
  · rintro ⟨fragment, spelled, rfl⟩
    exact ⟨fragment, spelled, rfl⟩

/-- One task for each kind, into which the fragment of the kind was merged. -/
def Service.Renders
    (service : Service)
    (kinds : List ArtifactKind)
    (tasks : List ArtifactTask) : Prop :=
  List.Forall₂
    (fun kind task => ∃ fragment, service.fragment kind = .ok fragment
      ∧ task = (ArtifactTask.empty kind).merge fragment)
    kinds tasks

theorem Service.exists_renders_iff {service : Service} {kinds : List ArtifactKind} :
    (∃ tasks, service.Renders kinds tasks)
      ↔ ∀ kind ∈ kinds, ∃ fragment, service.fragment kind = .ok fragment := by
  induction kinds with
  | nil => simp [Renders]
  | cons kind rest inductionHypothesis =>
      rw [List.forall_mem_cons, ← inductionHypothesis]
      constructor
      · rintro ⟨tasks, rendered⟩
        cases rendered with
        | cons taskRendered restRendered =>
            obtain ⟨fragment, spelled, _⟩ := taskRendered
            exact ⟨⟨fragment, spelled⟩, _, restRendered⟩
      · rintro ⟨⟨fragment, spelled⟩, tasks, restRendered⟩
        exact ⟨_, .cons ⟨fragment, spelled, rfl⟩ restRendered⟩

theorem Service.Renders.map_kind
    {service : Service}
    {kinds : List ArtifactKind}
    {tasks : List ArtifactTask}
    (rendered : service.Renders kinds tasks) :
    tasks.map ArtifactTask.kind = kinds := by
  induction rendered with
  | nil => rfl
  | cons taskRendered _ inductionHypothesis =>
      obtain ⟨fragment, _, rfl⟩ := taskRendered
      rw [List.map_cons, inductionHypothesis]
      rfl

theorem Service.Renders.filter_kind
    {service : Service}
    {kinds : List ArtifactKind}
    {tasks : List ArtifactTask}
    (rendered : service.Renders kinds tasks)
    (apart : kinds.Nodup)
    (kind : ArtifactKind) :
    tasks.filter (fun task => task.kind == kind)
      = (if kinds.contains kind then (service.fragment kind).toOption else none).toList.map
          (ArtifactTask.empty kind).merge := by
  induction rendered with
  | nil => rfl
  | @cons first task kinds tasks taskRendered _ inductionHypothesis =>
      obtain ⟨fragment, spelled, rfl⟩ := taskRendered
      obtain ⟨firstApart, restApart⟩ := List.nodup_cons.mp apart
      have inductionHypothesis := inductionHypothesis restApart
      by_cases here : first = kind
      · subst here
        have noneLater : kinds.contains first = false := by simp [firstApart]
        rw [noneLater] at inductionHypothesis
        rw [List.filter_cons_of_pos (by simp [ArtifactTask.merge, ArtifactTask.empty]),
          inductionHypothesis, spelled]
        simp [Except.toOption]
      · rw [List.filter_cons_of_neg (by simpa [ArtifactTask.merge, ArtifactTask.empty] using here),
          inductionHypothesis]
        simp [Ne.symm here]

/-- A completed job has a task for each of its kinds. -/
theorem Job.run_eq_ok {job : Job} {done : CompletedJob} :
    job.run = .ok done
      ↔ ∃ service, job.service = .ok service
          ∧ done.interface = service.interface
          ∧ service.Renders job.directive.artifactKinds done.tasks := by
  rw [run, except_bind_eq_ok]
  simp only [except_bind_eq_ok, except_mapM_eq_ok, renderAndMerge_eq_ok, pure, Except.pure,
    Except.ok.injEq]
  constructor
  · rintro ⟨service, extracted, tasks, rendered, rfl⟩
    exact ⟨service, extracted, rfl, rendered⟩
  · rintro ⟨service, extracted, sameInterface, rendered⟩
    refine ⟨service, extracted, done.tasks, rendered, ?_⟩
    rw [← sameInterface]

/-- The job completes exactly if its interface is extracted and every text is source. -/
theorem Job.completes_iff_fragments {job : Job} :
    job.completes = true
      ↔ ∃ service, job.service = .ok service
          ∧ ∀ kind ∈ job.directive.artifactKinds,
              ∃ fragment, service.fragment kind = .ok fragment := by
  rw [completes_iff]
  simp only [← Service.exists_renders_iff, Job.run_eq_ok]
  constructor
  · rintro ⟨done, service, extracted, _, rendered⟩
    exact ⟨service, extracted, done.tasks, rendered⟩
  · rintro ⟨service, extracted, tasks, rendered⟩
    exact ⟨⟨service.interface, tasks⟩, service, extracted, rfl, rendered⟩

/-- What a job contributes to a kind: the re-read text of the kind, if the job completes and
selects the kind. -/
def Job.fragment? (kind : ArtifactKind) (job : Job) : Option SourceFile :=
  if job.completes && job.directive.artifactKinds.contains kind then
    match job.service with
    | .ok service => (service.fragment kind).toOption
    | .error _ => none
  else none

/-- The tasks of one kind that a completed job has are its contribution to the kind. -/
theorem Job.filter_tasks
    {job : Job}
    {done : CompletedJob}
    (completed : job.run = .ok done)
    (kind : ArtifactKind) :
    done.tasks.filter (fun task => task.kind == kind)
      = (job.fragment? kind).toList.map (ArtifactTask.empty kind).merge := by
  obtain ⟨service, extracted, _, rendered⟩ := Job.run_eq_ok.mp completed
  have completes : job.completes = true := Job.completes_iff.mpr ⟨done, completed⟩
  have apart := (ArtifactKind.distinct_inKeyOrder
    (Directive.baseline ++ job.directive.options.flatMap DirectiveOption.artifactKinds)).nodup
  rw [rendered.filter_kind apart kind, fragment?, completes, extracted, Bool.true_and]

/-! ### All jobs -/

/-- What the jobs among the items of a file contribute to a kind, in the order of the source. -/
def fragmentsOf
    (package : Package)
    (items : List (Node .item))
    (kind : ArtifactKind) :
    List SourceFile :=
  (Discovery.ofItems package items).jobs.filterMap (Job.fragment? kind)

/-- The kinds that completed jobs among the items of a file select, in the order of keys. -/
def selectedKinds (package : Package) (items : List (Node .item)) : List ArtifactKind :=
  ArtifactKind.all.filter fun kind =>
    (Discovery.ofItems package items).jobs.any fun job =>
      job.completes && job.directive.artifactKinds.contains kind

theorem mem_selectedKinds
    {package : Package}
    {items : List (Node .item)}
    {kind : ArtifactKind} :
    kind ∈ selectedKinds package items
      ↔ ∃ job ∈ (Discovery.ofItems package items).jobs,
          job.completes = true ∧ kind ∈ job.directive.artifactKinds := by
  simp [selectedKinds, ArtifactKind.mem_all]

theorem selectedKinds_inKeyOrder (package : Package) (items : List (Node .item)) :
    ArtifactKind.InKeyOrder (selectedKinds package items) :=
  ArtifactKind.all_inKeyOrder.filter _

/-- The completed jobs are those that complete alone, in the order of the source. -/
theorem Build.completed_eq (package : Package) (items : List (Node .item)) :
    (Build.ofItems package items).completed
      = (Discovery.ofItems package items).jobs.filterMap fun job => job.run.toOption := by
  simp only [ofItems, List.filterMap_map]
  congr 1
  funext job
  simp only [Function.comp_apply]
  cases job.run <;> rfl

theorem filter_completed_tasks (jobs : List Job) (kind : ArtifactKind) :
    ((jobs.filterMap fun job => job.run.toOption).flatMap CompletedJob.tasks).filter
        (fun task => task.kind == kind)
      = (jobs.filterMap (Job.fragment? kind)).map (ArtifactTask.empty kind).merge := by
  induction jobs with
  | nil => rfl
  | cons job rest inductionHypothesis =>
      cases ran : job.run with
      | error failure =>
          have failed : job.fragment? kind = none := by
            simp [Job.fragment?, Job.completes, ran]
          rw [List.filterMap_cons_none (by rw [ran]; rfl), inductionHypothesis,
            List.filterMap_cons_none failed]
      | ok done =>
          rw [List.filterMap_cons_some (by rw [ran]; rfl), List.flatMap_cons, List.filter_append,
            inductionHypothesis, Job.filter_tasks ran]
          cases contributed : job.fragment? kind with
          | none => rw [List.filterMap_cons_none contributed]; rfl
          | some fragment => rw [List.filterMap_cons_some contributed]; rfl

theorem mem_completed_kinds (jobs : List Job) (kind : ArtifactKind) :
    kind ∈ ((jobs.filterMap fun job => job.run.toOption).flatMap CompletedJob.tasks).map
        ArtifactTask.kind
      ↔ ∃ job ∈ jobs, job.completes = true ∧ kind ∈ job.directive.artifactKinds := by
  induction jobs with
  | nil => simp
  | cons job rest inductionHypothesis =>
      simp only [List.mem_cons, exists_eq_or_imp, ← inductionHypothesis]
      cases ran : job.run with
      | error failure =>
          rw [List.filterMap_cons_none (by rw [ran]; rfl)]
          simp [Job.completes, ran]
      | ok done =>
          obtain ⟨service, _, _, rendered⟩ := Job.run_eq_ok.mp ran
          rw [List.filterMap_cons_some (by rw [ran]; rfl), List.flatMap_cons, List.map_append,
            List.mem_append, rendered.map_kind]
          simp [Job.completes, ran]

/-- The kinds of all tasks that completed jobs have, each once. -/
theorem Build.distinct_completed_kinds (package : Package) (items : List (Node .item)) :
    ArtifactKind.distinct
        (((Build.ofItems package items).completed.flatMap CompletedJob.tasks).map
          ArtifactTask.kind)
      = selectedKinds package items := by
  rw [Build.completed_eq, ArtifactKind.distinct, selectedKinds]
  apply List.filter_congr
  intro kind _
  rw [Bool.eq_iff_iff, List.contains_iff_mem, mem_completed_kinds]
  simp

/-- A run accumulates, for each kind that a completed job selects, what merging the
contributions to the kind one after the other into one task comes to. -/
theorem Build.accumulated_eq (package : Package) (items : List (Node .item)) :
    (Build.ofItems package items).accumulated
      = (selectedKinds package items).map fun kind =>
          (fragmentsOf package items kind).foldl ArtifactTask.merge (.empty kind) := by
  rw [accumulated, Build.distinct_completed_kinds]
  apply List.map_congr_left
  intro kind _
  rw [Build.completed_eq, filter_completed_tasks, ArtifactTask.foldl_absorb_fresh]
  rfl

end Scaffold
