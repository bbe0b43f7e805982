import Scaffold.Proofs.Generation.Run

/-!
Contract: how far a failure reaches.

Owns:
- the failures that the building of a job can end in;
- the failures that a run can end in;
- the runs that succeed, however many jobs fail.

Does not own: which jobs fail.
-/

namespace Scaffold

open Source

/-! ### Failures of an interface -/

/-- Is the failure one of the interface with a name? A template that does not run, and a text that
is no source, belong to whatever interface they are for. -/
def Failure.IsOfInterface (interface : String) : Failure → Prop
  | .unsupportedType name _ _ _ => name = interface
  | .duplicateMethod name _ => name = interface
  | .templateExecution _ => True
  | .renderedOutputParse _ => True
  | .inputRead _ _ => False
  | .parse _ => False
  | .directoryCreate _ _ => False
  | .fileWrite _ _ => False

/-- Does a failure end no more than one interface, and does its number say so? -/
def Failure.EndsJob (failure : Failure) : Prop :=
  failure.isJobScoped = true ∧ failure.code ∈ [3, 4, 5, 6]

/-- Does a failure end the whole run, and does its number say so? -/
def Failure.EndsRun (codes : List Nat) (failure : Failure) : Prop :=
  failure.isJobScoped = false ∧ failure.code ∈ codes

theorem Failure.IsOfInterface.endsJob
    {interface : String}
    {failure : Failure}
    (isOfInterface : failure.IsOfInterface interface) :
    failure.EndsJob := by
  cases failure with
  | unsupportedType => exact ⟨rfl, by simp [Failure.code]⟩
  | duplicateMethod => exact ⟨rfl, by simp [Failure.code]⟩
  | templateExecution => exact ⟨rfl, by simp [Failure.code]⟩
  | renderedOutputParse => exact ⟨rfl, by simp [Failure.code]⟩
  | inputRead | parse | directoryCreate | fileWrite => exact isOfInterface.elim

theorem exists_of_parametersFrom_eq_error
    {fail : TypePosition → String → Failure}
    {number : Nat}
    {parameters : List (Node .pattern × Node .type)}
    {failure : Failure}
    (fails : parametersFrom fail number parameters = .error failure) :
    ∃ position found, failure = fail position found := by
  induction parameters generalizing number with
  | nil => cases fails
  | cons parameter rest inductionHypothesis =>
      obtain ⟨pattern, type⟩ := parameter
      rw [parametersFrom] at fails
      split at fails
      case h_1 =>
        cases fails
        exact ⟨_, _, rfl⟩
      case h_2 =>
        split at fails
        case h_1 =>
          cases fails
          exact ⟨_, _, rfl⟩
        case h_2 =>
          rcases except_bind_eq_error.mp fails with failsLater | ⟨_, _, returns⟩
          · exact inductionHypothesis failsLater
          · cases returns

theorem exists_of_resultsFrom_eq_error
    {fail : TypePosition → String → Failure}
    {number : Nat}
    {types : List (Node .type)}
    {failure : Failure}
    (fails : resultsFrom fail number types = .error failure) :
    ∃ position found, failure = fail position found := by
  induction types generalizing number with
  | nil => cases fails
  | cons type rest inductionHypothesis =>
      rw [resultsFrom] at fails
      split at fails
      case h_1 =>
        cases fails
        exact ⟨_, _, rfl⟩
      case h_2 =>
        rcases except_bind_eq_error.mp fails with failsLater | ⟨_, _, returns⟩
        · exact inductionHypothesis failsLater
        · cases returns

/-- A signature declares no method only because of an unsupported type in it. -/
theorem exists_of_ofSignature_eq_error
    {interface : String}
    {signature : Node .signature}
    {failure : Failure}
    (fails : Method.ofSignature interface signature = .error failure) :
    ∃ position found,
      failure = .unsupportedType interface (signatureName signature) position found := by
  cases signature with
  | functionSignature head name generics parameters trailing output =>
      rw [Method.ofSignature] at fails
      rcases except_bind_eq_error.mp fails with failsParameters | ⟨_, _, failsLater⟩
      · exact exists_of_parametersFrom_eq_error failsParameters
      · rcases except_bind_eq_error.mp failsLater with failsResults | ⟨_, _, returns⟩
        · exact exists_of_resultsFrom_eq_error failsResults
        · cases returns

theorem isOfInterface_methodsFrom
    {interface : String}
    {seen : List String}
    {signatures : List (Node .signature)}
    {failure : Failure}
    (fails : methodsFrom interface seen signatures = .error failure) :
    failure.IsOfInterface interface := by
  induction signatures generalizing seen with
  | nil => cases fails
  | cons signature rest inductionHypothesis =>
      rw [methodsFrom] at fails
      rcases except_bind_eq_error.mp fails with failsHere | ⟨method, _, failsLater⟩
      · obtain ⟨_, _, rfl⟩ := exists_of_ofSignature_eq_error failsHere
        exact rfl
      · split at failsLater
        case isTrue =>
          cases failsLater
          exact rfl
        case isFalse =>
          rcases except_bind_eq_error.mp failsLater with failsRest | ⟨_, _, returns⟩
          · exact inductionHypothesis failsRest
          · cases returns

theorem isOfInterface_reparse
    {interface : String}
    {kind : ArtifactKind}
    {text : String}
    {failure : Failure}
    (fails : kind.reparse text = .error failure) :
    failure.IsOfInterface interface := by
  rw [ArtifactKind.reparse] at fails
  split at fails
  case h_1 => cases fails
  case h_2 =>
    cases fails
    trivial

/-- A job fails only in a failure of its own interface: while this is extracted, or because a text
that is made for it is no source. -/
theorem Job.isOfInterface_of_run
    {job : Job}
    {failure : Failure}
    (fails : job.run = .error failure) :
    failure.IsOfInterface job.declaration.name := by
  rcases except_bind_eq_error.mp fails with failsService | ⟨service, _, failsLater⟩
  · rcases except_bind_eq_error.mp failsService with failsInterface | ⟨_, _, returns⟩
    · rcases except_bind_eq_error.mp failsInterface with failsMethods | ⟨_, _, returns⟩
      · exact isOfInterface_methodsFrom failsMethods
      · cases returns
    · cases returns
  · rcases except_bind_eq_error.mp failsLater with failsTasks | ⟨_, _, returns⟩
    · obtain ⟨_, kind, _, -, -, failsTask⟩ := exists_first_of_except_mapM_eq_error failsTasks
      rcases except_bind_eq_error.mp failsTask with failsText | ⟨_, _, returns⟩
      · exact isOfInterface_reparse failsText
      · cases returns
    · cases returns

/-- What a build records as failed is a failure of the interface that it is recorded for. -/
theorem Build.isOfInterface_of_mem_failed
    {package : Package}
    {items : List (Node .item)}
    {failed : JobFailure}
    (member : failed ∈ (ofItems package items).failed) :
    failed.failure.IsOfInterface failed.interface := by
  rw [ofItems] at member
  obtain ⟨outcome, isOutcome, found⟩ := List.mem_filterMap.mp member
  obtain ⟨job, _, rfl⟩ := List.mem_map.mp isOutcome
  cases ran : job.run with
  | ok done =>
      rw [ran] at found
      cases found
  | error failure =>
      rw [ran] at found
      cases found
      exact Job.isOfInterface_of_run ran

/-! ### Failures of a run -/

theorem Failure.IsOfFile.endsRun
    {path : Path}
    {failure : Failure}
    (isOfFile : failure.IsOfFile path) :
    failure.EndsRun [7, 8] := by
  rcases isOfFile with ⟨directory, fault, _, rfl⟩ | ⟨fault, rfl⟩
  · exact ⟨rfl, by simp [Failure.code]⟩
  · exact ⟨rfl, by simp [Failure.code]⟩

theorem Failure.EndsRun.mono
    {codes more : List Nat}
    {failure : Failure}
    (endsRun : failure.EndsRun codes)
    (included : codes ⊆ more) :
    failure.EndsRun more :=
  ⟨endsRun.1, included endsRun.2⟩

/-- Every job among the items fails. -/
def AllFail (package : Package) (items : List (Node .item)) : Prop :=
  ∀ job ∈ (Discovery.ofItems package items).jobs, ∃ failure, job.run = .error failure

/-- Where every job fails, nothing is there to be emitted. -/
theorem Build.accumulated_of_allFail
    {package : Package}
    {items : List (Node .item)}
    (allFail : AllFail package items) :
    (ofItems package items).accumulated = [] := by
  have noneSelected : selectedKinds package items = [] := by
    apply List.eq_nil_iff_forall_not_mem.mpr
    intro kind selected
    obtain ⟨job, isJob, completes, _⟩ := mem_selectedKinds.mp selected
    obtain ⟨done, succeeds⟩ := Job.completes_iff.mp completes
    obtain ⟨failure, fails⟩ := allFail job isJob
    rw [fails] at succeeds
    cases succeeds
  rw [Build.accumulated_eq, noneSelected, List.map_nil]

section Runs

variable {σ : Type} [Storage (StateM σ)] {state after : σ} {root : Path}

/-- Tasks are emitted one after the other, from a state on, and every emission succeeds. -/
inductive EmitsAll (root : Path) : σ → List ArtifactTask → List EmittedFile → σ → Prop
  | nil (state : σ) : EmitsAll root state [] [] state
  | cons {state between after : σ} {task : ArtifactTask} {file : EmittedFile}
      {rest : List ArtifactTask} {files : List EmittedFile}
      (emits : runOn state (task.emit root) = (.ok file, between))
      (emitsRest : EmitsAll root between rest files after) :
      EmitsAll root state (task :: rest) (file :: files) after

/-- A row of emissions succeeds exactly if every one of them does. -/
theorem runOn_mapM_emit_eq_ok_iff
    {tasks : List ArtifactTask}
    {emitted : List EmittedFile} :
    runOn state (tasks.mapM (ArtifactTask.emit root)) = (.ok emitted, after)
      ↔ EmitsAll root state tasks emitted after := by
  constructor
  · intro emits
    induction tasks generalizing state emitted with
    | nil =>
        cases emits
        exact .nil _
    | cons task rest inductionHypothesis =>
        rw [List.mapM_cons] at emits
        rcases runOn_bind_cases emits with ⟨file, between, first, later⟩ | ⟨_, _, fails⟩
        · rcases runOn_bind_cases later with ⟨files, _, restEmits, returns⟩ | ⟨_, _, fails⟩
          · cases returns
            exact .cons first (inductionHypothesis restEmits)
          · cases fails
        · cases fails
  · intro emitsAll
    induction emitsAll with
    | nil => rfl
    | cons emits _ inductionHypothesis =>
        rw [List.mapM_cons, runOn_bind, emits]
        simp only
        rw [runOn_bind, inductionHypothesis]
        rfl

/-- A row of emissions fails only because of the file of one of the tasks. -/
theorem exists_isOfFile_of_runOn_mapM_emit
    {tasks : List ArtifactTask}
    {failure : Failure}
    (fails : runOn state (tasks.mapM (ArtifactTask.emit root)) = (.error failure, after)) :
    ∃ task ∈ tasks, failure.IsOfFile (task.target root) := by
  induction tasks generalizing state with
  | nil => cases fails
  | cons task rest inductionHypothesis =>
      rw [List.mapM_cons] at fails
      rcases runOn_bind_cases fails with ⟨_, between, _, failsLater⟩ | ⟨_, failsFirst, same⟩
      · rcases runOn_bind_cases failsLater with ⟨_, _, _, returns⟩ | ⟨_, failsRest, same⟩
        · cases returns
        · cases same
          obtain ⟨other, member, isOfFile⟩ := inductionHypothesis failsRest
          exact ⟨other, List.mem_cons_of_mem task member, isOfFile⟩
      · cases same
        exact ⟨task, List.mem_cons_self, isOfFile_emit failsFirst⟩

/-- A source file that cannot be loaded is not read or does not parse. -/
theorem endsRun_of_runOn_loadSource
    {input : Path}
    {failure : Failure}
    (fails : runOn state (loadSource input) = (.error failure, after)) :
    failure.EndsRun [1, 2] := by
  obtain ⟨read, between, _, settled⟩ := runOn_lift_bind fails
  cases read with
  | error fault =>
      cases settled
      exact ⟨rfl, by simp [Failure.code]⟩
  | ok text =>
      simp only at settled
      split at settled
      case h_1 => cases settled
      case h_2 =>
        cases settled
        exact ⟨rfl, by simp [Failure.code]⟩

/-- A run succeeds exactly if every emission does, whichever jobs fail. -/
theorem runOn_generate_eq_ok_iff
    {package : Package}
    {file : SourceFile}
    {report : GenerationReport} :
    runOn state (generate package root file) = (.ok report, after)
      ↔ ∃ emitted,
          EmitsAll root state (Build.ofItems package file.items).accumulated emitted after
            ∧ report = ⟨emitted, (Build.ofItems package file.items).failed,
                (Build.ofItems package file.items).skipped⟩ := by
  rw [runOn_generate]
  simp only [← runOn_mapM_emit_eq_ok_iff]
  rcases runOn state
      ((Build.ofItems package file.items).accumulated.mapM (ArtifactTask.emit root))
    with ⟨failure | emitted, left⟩
  · simp
  · constructor
    · intro returns
      cases returns
      exact ⟨emitted, rfl, rfl⟩
    · rintro ⟨_, same, rfl⟩
      cases same
      rfl

/-- A run over a file fails only because of a file that it writes. -/
theorem exists_isOfFile_of_runOn_generate
    {package : Package}
    {file : SourceFile}
    {failure : Failure}
    (fails : runOn state (generate package root file) = (.error failure, after)) :
    ∃ task ∈ (Build.ofItems package file.items).accumulated,
      failure.IsOfFile (task.target root) := by
  rw [runOn_generate] at fails
  split at fails
  case h_1 => cases fails
  case h_2 failure left emits =>
    cases fails
    exact exists_isOfFile_of_runOn_mapM_emit emits

/-- How a run over a file ends: its report lists failures of interfaces only, and where it fails
itself, this is because of a file that it writes. -/
theorem endsIn_generate (package : Package) (root : Path) (file : SourceFile) (state : σ) :
    EndsIn
      (fun report => ∀ failed ∈ report.failed, failed.failure.EndsJob)
      (fun failure => failure.EndsRun [7, 8])
      (runOn state (generate package root file)).1 := by
  rcases runs : runOn state (generate package root file) with ⟨failure | report, after⟩
  · obtain ⟨_, _, isOfFile⟩ := exists_isOfFile_of_runOn_generate runs
    exact isOfFile.endsRun
  · obtain ⟨_, _, rfl⟩ := runOn_generate_eq_ok_iff.mp runs
    intro failed member
    exact (Build.isOfInterface_of_mem_failed member).endsJob

/-- How a run over the file at a path ends: as the run over the file, or because the file cannot be
loaded. -/
theorem endsIn_generateFrom (package : Package) (root input : Path) (state : σ) :
    EndsIn
      (fun report => ∀ failed ∈ report.failed, failed.failure.EndsJob)
      (fun failure => failure.EndsRun [1, 2, 7, 8])
      (runOn state (generateFrom package root input)).1 := by
  rw [generateFrom, runOn_bind]
  rcases loads : runOn state (loadSource input) with ⟨failure | file, between⟩
  · exact (endsRun_of_runOn_loadSource loads).mono (by simp)
  · have ends := endsIn_generate package root file between
    simp only
    rcases runs : runOn between (generate package root file) with ⟨failure | report, after⟩
    · rw [runs] at ends
      exact Failure.EndsRun.mono ends (by simp)
    · rw [runs] at ends
      exact ends

/-- Where every job fails, a run succeeds and changes nothing. -/
theorem runOn_generate_of_allFail
    {package : Package}
    {file : SourceFile}
    (allFail : AllFail package file.items)
    (root : Path)
    (state : σ) :
    runOn state (generate package root file)
      = (.ok ⟨[], (Build.ofItems package file.items).failed,
          (Build.ofItems package file.items).skipped⟩, state) := by
  rw [runOn_generate_eq_ok_iff, Build.accumulated_of_allFail allFail]
  exact ⟨[], .nil state, rfl⟩

/-- Where every job of the file at a path fails, a run over the path succeeds and changes no
file. -/
theorem tree_runOn_generateFrom_of_allFail
    [ShowsTree σ]
    {package : Package}
    {input : Path}
    {file : SourceFile}
    (loads : (runOn state (loadSource input)).1 = .ok file)
    (allFail : AllFail package file.items)
    (root : Path) :
    (runOn state (generateFrom package root input)).1
        = .ok ⟨[], (Build.ofItems package file.items).failed,
            (Build.ofItems package file.items).skipped⟩
      ∧ ShowsTree.tree (runOn state (generateFrom package root input)).2
        = ShowsTree.tree state := by
  have unchanged := tree_runOn_loadSource input state
  rw [generateFrom, runOn_bind]
  rcases loaded : runOn state (loadSource input) with ⟨outcome, between⟩
  rw [loaded] at loads unchanged
  cases loads
  simp only
  rw [runOn_generate_of_allFail allFail]
  exact ⟨rfl, unchanged⟩

end Runs

/-- A failure reaches as far as its cause says.

Whatever a build records as failed, and whatever a report lists as failed, is a failure of one
interface, by its cause and by its number. A failure that ends a run is none: it is about a file
that the run writes, or about the source file where the run loads this. A run succeeds exactly if
every emission does, whichever jobs fail and however many; and where all of them fail it succeeds
and changes nothing. This is so wherever files are kept. -/
theorem failures_reach_as_far_as_they_say
    {σ : Type}
    [Storage (StateM σ)]
    [ShowsTree σ]
    (package : Package)
    (root : Path)
    (state : σ) :
    (∀ items, ∀ failed ∈ (Build.ofItems package items).failed, failed.failure.EndsJob)
      ∧ (∀ file,
          EndsIn
            (fun report => ∀ failed ∈ report.failed, failed.failure.EndsJob)
            (fun failure => failure.EndsRun [7, 8])
            (runOn state (generate package root file)).1)
      ∧ (∀ input,
          EndsIn
            (fun report => ∀ failed ∈ report.failed, failed.failure.EndsJob)
            (fun failure => failure.EndsRun [1, 2, 7, 8])
            (runOn state (generateFrom package root input)).1)
      ∧ (∀ file report after,
          runOn state (generate package root file) = (.ok report, after)
            ↔ ∃ emitted,
                EmitsAll root state (Build.ofItems package file.items).accumulated emitted after
                  ∧ report = ⟨emitted, (Build.ofItems package file.items).failed,
                      (Build.ofItems package file.items).skipped⟩)
      ∧ (∀ file, AllFail package file.items →
          runOn state (generate package root file)
            = (.ok ⟨[], (Build.ofItems package file.items).failed,
                (Build.ofItems package file.items).skipped⟩, state))
      ∧ ∀ input file, (runOn state (loadSource input)).1 = .ok file →
          AllFail package file.items →
          (runOn state (generateFrom package root input)).1
              = .ok ⟨[], (Build.ofItems package file.items).failed,
                  (Build.ofItems package file.items).skipped⟩
            ∧ ShowsTree.tree (runOn state (generateFrom package root input)).2
              = ShowsTree.tree state :=
  ⟨fun _ _ member => (Build.isOfInterface_of_mem_failed member).endsJob,
    fun file => endsIn_generate package root file state,
    fun input => endsIn_generateFrom package root input state,
    fun _ _ _ => runOn_generate_eq_ok_iff,
    fun _ allFail => runOn_generate_of_allFail allFail root state,
    fun _ _ loads allFail => tree_runOn_generateFrom_of_allFail loads allFail root⟩

/-! ### A file in which everything fails -/

/-- A trait two methods of which have one name. -/
def repeatedText : String :=
  "/// servicegen:service\ntrait Calc { fn f(&self); fn f(&self); }"

/-- A tree with nothing in it but a source file. -/
def repeatedTree : FileTree :=
  ⟨["work"], [(["work"], .directory), (["work", "calc.rs"], .file (.text repeatedText))]⟩

theorem exists_repeatedText :
    ∃ file, SourceFile.ofText? repeatedText = some file
      ∧ AllFail ⟨"calc", "calc"⟩ file.items
      ∧ (Build.ofItems ⟨"calc", "calc"⟩ file.items).failed
        = [⟨"Calc", .duplicateMethod "Calc" "f"⟩] := by
  have evaluates : (SourceFile.ofText? repeatedText).map (fun file =>
        ((Discovery.ofItems ⟨"calc", "calc"⟩ file.items).jobs.map Job.completes,
          (Build.ofItems ⟨"calc", "calc"⟩ file.items).failed))
      = some ([false], [⟨"Calc", .duplicateMethod "Calc" "f"⟩]) := by
    decide +kernel
  obtain ⟨file, parses, same⟩ := Option.map_eq_some_iff.mp evaluates
  obtain ⟨noneCompletes, failed⟩ := Prod.mk.inj same
  refine ⟨file, parses, ?_, failed⟩
  intro job isJob
  have incomplete : job.completes ∈ [false] := by
    rw [← noneCompletes]
    exact List.mem_map_of_mem isJob
  cases ran : job.run with
  | ok done => simp [Job.completes, ran] at incomplete
  | error failure => exact ⟨failure, rfl⟩

theorem failures_reach_as_far_as_they_say_of_repeatedText :
    ∃ file, (repeatedTree.run (loadSource ⟨"calc.rs"⟩)).1 = .ok file
      ∧ AllFail ⟨"calc", "calc"⟩ file.items
      ∧ (Failure.duplicateMethod "Calc" "f").EndsJob
      ∧ (repeatedTree.run (generate ⟨"calc", "calc"⟩ ⟨"out"⟩ file)).2 = repeatedTree
      ∧ (repeatedTree.run (generateFrom ⟨"calc", "calc"⟩ ⟨"out"⟩ ⟨"calc.rs"⟩)).1
        = .ok ⟨[], [⟨"Calc", .duplicateMethod "Calc" "f"⟩],
            (Build.ofItems ⟨"calc", "calc"⟩ file.items).skipped⟩
      ∧ (repeatedTree.run (generateFrom ⟨"calc", "calc"⟩ ⟨"out"⟩ ⟨"calc.rs"⟩)).2
        = repeatedTree := by
  obtain ⟨file, parses, allFail, failed⟩ := exists_repeatedText
  have reads : repeatedTree.readText ⟨"calc.rs"⟩ = .ok repeatedText := rfl
  have loads : repeatedTree.run (loadSource ⟨"calc.rs"⟩) = (.ok file, repeatedTree) :=
    run_loadSource_of_readText reads parses
  have loaded : (repeatedTree.run (loadSource ⟨"calc.rs"⟩)).1 = .ok file := by rw [loads]
  obtain ⟨recorded, _, _, _, leaves, leavesFrom⟩ :=
    failures_reach_as_far_as_they_say ⟨"calc", "calc"⟩ ⟨"out"⟩ repeatedTree
  have member : ⟨"Calc", .duplicateMethod "Calc" "f"⟩
      ∈ (Build.ofItems ⟨"calc", "calc"⟩ file.items).failed := by
    rw [failed]
    exact List.mem_singleton_self _
  have endsJob := recorded file.items _ member
  have unchanged := leaves file allFail
  obtain ⟨reported, unchangedFrom⟩ := leavesFrom ⟨"calc.rs"⟩ file loaded allFail
  -- Rewriting, as comparing the two sides by evaluation would carry out the run.
  have shows : ∀ tree : FileTree, ShowsTree.tree tree = tree := fun _ => rfl
  rw [shows, shows] at unchangedFrom
  refine ⟨file, loaded, allFail, endsJob, ?_, ?_, ?_⟩
  · rw [FileTree.run_eq_runOn, unchanged]
  · rw [FileTree.run_eq_runOn, reported, failed]
  · rw [FileTree.run_eq_runOn, unchangedFrom]

end Scaffold
