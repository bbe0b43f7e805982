import Scaffold.Proofs.Generation.Run

/-!
Contract: jobs that fail, and what the others notice of them.

Owns:
- the build of a file as that of its items one by one;
- the file without the traits whose jobs fail;
- the comparison of the runs over both files.

Does not own: why a job fails.
-/

namespace Scaffold

open Source

/-! ### One item after the other -/

/-- The build of one item is that of a file with nothing else in it. -/
theorem Build.ofItems_cons (package : Package) (item : Node .item) (rest : List (Node .item)) :
    Build.ofItems package (item :: rest)
      = ⟨(Build.ofItems package [item]).completed ++ (Build.ofItems package rest).completed,
          (Build.ofItems package [item]).failed ++ (Build.ofItems package rest).failed,
          (Build.ofItems package [item]).skipped ++ (Build.ofItems package rest).skipped⟩ := by
  simp only [Build.ofItems, Discovery.ofItems, ← List.filterMap_append, ← List.map_append]
  rfl

theorem Build.completed_eq_flatMap (package : Package) (items : List (Node .item)) :
    (Build.ofItems package items).completed
      = items.flatMap fun item => (Build.ofItems package [item]).completed := by
  induction items with
  | nil => rfl
  | cons item rest inductionHypothesis =>
      rw [Build.ofItems_cons, List.flatMap_cons, ← inductionHypothesis]

theorem Build.failed_eq_flatMap (package : Package) (items : List (Node .item)) :
    (Build.ofItems package items).failed
      = items.flatMap fun item => (Build.ofItems package [item]).failed := by
  induction items with
  | nil => rfl
  | cons item rest inductionHypothesis =>
      rw [Build.ofItems_cons, List.flatMap_cons, ← inductionHypothesis]

/-- The build of a job alone in its file is the outcome of the job. -/
theorem Build.ofItems_singleton_of_job
    {package : Package}
    {item : Node .item}
    {job : Job}
    (found : Finding.ofItem package item = .job job) :
    Build.ofItems package [item]
      = match job.run with
        | .ok done => ⟨[done], [], []⟩
        | .error failure => ⟨[], [⟨job.declaration.name, failure⟩], []⟩ := by
  simp only [Build.ofItems, Discovery.ofItems, List.map_cons, List.map_nil, found]
  cases ran : job.run <;> simp [Finding.job?, Finding.skipped?, completed?, failed?, ran]

/-- What is no job neither completes nor fails. -/
theorem Build.ofItems_singleton_of_no_job
    {package : Package}
    {item : Node .item}
    (noJob : (Finding.ofItem package item).job? = none) :
    Build.ofItems package [item]
      = ⟨[], [], (Finding.ofItem package item).skipped?.toList⟩ := by
  simp only [Build.ofItems, Discovery.ofItems, List.map_cons, List.map_nil,
    List.filterMap_cons_none noJob, List.filterMap_nil]
  cases passedOver : (Finding.ofItem package item).skipped? <;> simp [passedOver]

/-! ### Every job once -/

/-- Two lists hold what jobs come to: each job in its order has exactly one place, among the
completed ones with what its run returns, or among the failed ones with why its run failed. -/
inductive Accounts : List Job → List CompletedJob → List JobFailure → Prop where
  | nil : Accounts [] [] []
  | completed
      {job : Job}
      {done : CompletedJob}
      {jobs : List Job}
      {completed : List CompletedJob}
      {failed : List JobFailure}
      (ran : job.run = .ok done)
      (rest : Accounts jobs completed failed) :
      Accounts (job :: jobs) (done :: completed) failed
  | failed
      {job : Job}
      {failure : Failure}
      {jobs : List Job}
      {completed : List CompletedJob}
      {failed : List JobFailure}
      (ran : job.run = .error failure)
      (rest : Accounts jobs completed failed) :
      Accounts (job :: jobs) completed (⟨job.declaration.name, failure⟩ :: failed)

theorem accounts_outcomes (jobs : List Job) :
    Accounts jobs
      ((jobs.map fun job => (job, job.run)).filterMap completed?)
      ((jobs.map fun job => (job, job.run)).filterMap failed?) := by
  induction jobs with
  | nil => exact .nil
  | cons job rest inductionHypothesis =>
      cases ran : job.run with
      | ok done =>
          rw [List.map_cons, ran]
          exact .completed ran inductionHypothesis
      | error failure =>
          rw [List.map_cons, ran]
          exact .failed ran inductionHypothesis

/-! ### Without the traits that fail -/

/-- Is the item no job, or one that completes? -/
def Finding.isSound (finding : Finding) : Bool :=
  match finding with
  | .job found => found.completes
  | .skipped _ => true
  | .nothing => true

/-- The file without the traits whose jobs fail. -/
def Source.SourceFile.withoutFailing (package : Package) (file : SourceFile) : SourceFile :=
  { file with items := file.items.filter fun item => (Finding.ofItem package item).isSound }

theorem Build.failed_of_isSound
    {package : Package}
    {item : Node .item}
    (sound : (Finding.ofItem package item).isSound = true) :
    (Build.ofItems package [item]).failed = [] := by
  cases found : Finding.ofItem package item with
  | job job =>
      rw [found, Finding.isSound] at sound
      obtain ⟨done, completed⟩ := Job.completes_iff.mp sound
      rw [ofItems_singleton_of_job found, completed]
  | skipped declaration =>
      rw [ofItems_singleton_of_no_job (by rw [found]; rfl)]
  | nothing =>
      rw [ofItems_singleton_of_no_job (by rw [found]; rfl)]

theorem Build.of_not_isSound
    {package : Package}
    {item : Node .item}
    (unsound : (Finding.ofItem package item).isSound = false) :
    (Build.ofItems package [item]).completed = []
      ∧ (Build.ofItems package [item]).skipped = [] := by
  cases found : Finding.ofItem package item with
  | job job =>
      rw [found] at unsound
      rw [ofItems_singleton_of_job found]
      cases ran : job.run with
      | ok done =>
          have completes : job.completes = true := Job.completes_iff.mpr ⟨done, ran⟩
          rw [Finding.isSound, completes] at unsound
          cases unsound
      | error failure => exact ⟨rfl, rfl⟩
  | skipped declaration =>
      rw [found] at unsound
      cases unsound
  | nothing =>
      rw [found] at unsound
      cases unsound

/-- Without the traits that fail, the same jobs complete and nothing fails. -/
theorem Build.ofItems_withoutFailing (package : Package) (file : SourceFile) :
    Build.ofItems package (file.withoutFailing package).items
      = ⟨(Build.ofItems package file.items).completed, [],
          (Build.ofItems package file.items).skipped⟩ := by
  rw [SourceFile.withoutFailing]
  simp only
  induction file.items with
  | nil => rfl
  | cons item rest inductionHypothesis =>
      rw [Build.ofItems_cons package item rest]
      cases soundness : (Finding.ofItem package item).isSound with
      | true =>
          rw [List.filter_cons_of_pos (by exact soundness), Build.ofItems_cons, inductionHypothesis,
            Build.failed_of_isSound soundness]
          rfl
      | false =>
          obtain ⟨noneCompleted, noneSkipped⟩ := Build.of_not_isSound soundness
          rw [List.filter_cons_of_neg (by simp [soundness]), inductionHypothesis, noneCompleted,
            noneSkipped]
          rfl

/-! ### Two runs -/

/-- The run over the file without the traits that fail comes to the same end on every tree, and
reports the same but for the failures. -/
theorem run_generate_withoutFailing
    (package : Package)
    (root : Path)
    (file : SourceFile)
    (tree : FileTree) :
    tree.run (generate package root (file.withoutFailing package))
      = ((tree.run (generate package root file)).1.map fun report => { report with failed := [] },
          (tree.run (generate package root file)).2) := by
  rw [FileTree.run_eq_runOn, FileTree.run_eq_runOn, runOn_generate, runOn_generate,
    Build.ofItems_withoutFailing]
  have sameTasks : ∀ build : Build,
      (⟨build.completed, [], build.skipped⟩ : Build).accumulated = build.accumulated :=
    fun _ => rfl
  rw [sameTasks]
  rcases runOn tree ((Build.ofItems package file.items).accumulated.mapM (ArtifactTask.emit root))
    with ⟨failure | emitted, after⟩
  · rfl
  · rfl

/-- Jobs that fail leave no trace.

Without their traits the same jobs complete in the same order, the same declarations are passed
over, nothing fails, and a run comes to the same end on every tree. Every job of the file is
either completed or failed, once and in the order of the source, and what becomes of it is what
becomes of its trait alone in a file. -/
theorem failing_jobs_leave_no_trace (package : Package) (file : SourceFile) :
    Build.ofItems package (file.withoutFailing package).items
        = ⟨(Build.ofItems package file.items).completed, [],
            (Build.ofItems package file.items).skipped⟩
      ∧ (∀ (tree : FileTree) (root : Path),
          tree.run (generate package root (file.withoutFailing package))
            = ((tree.run (generate package root file)).1.map
                  fun report => { report with failed := [] },
                (tree.run (generate package root file)).2))
      ∧ Accounts (Discovery.ofItems package file.items).jobs
          (Build.ofItems package file.items).completed
          (Build.ofItems package file.items).failed
      ∧ (Build.ofItems package file.items).completed
          = file.items.flatMap (fun item => (Build.ofItems package [item]).completed)
      ∧ (Build.ofItems package file.items).failed
          = file.items.flatMap (fun item => (Build.ofItems package [item]).failed)
      ∧ (∀ item job, Finding.ofItem package item = .job job →
          Build.ofItems package [item]
            = match job.run with
              | .ok done => ⟨[done], [], []⟩
              | .error failure => ⟨[], [⟨job.declaration.name, failure⟩], []⟩) :=
  ⟨Build.ofItems_withoutFailing package file,
    fun tree root => run_generate_withoutFailing package root file tree,
    accounts_outcomes _,
    Build.completed_eq_flatMap package file.items,
    Build.failed_eq_flatMap package file.items,
    fun _ _ found => Build.ofItems_singleton_of_job found⟩

end Scaffold
