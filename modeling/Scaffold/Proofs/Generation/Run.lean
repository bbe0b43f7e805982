import Scaffold.Proofs.Generation.Build
import Scaffold.Proofs.Generation.Emission

/-!
Contract: the files that a whole generation run leaves behind.

Owns:
- the content of each file of a run as a function of the source alone;
- the result of a run that succeeds, on every tree, and a run that does.

Does not own: the runs that end before everything is in place.
-/

namespace Scaffold

open Source

/-! ### Contents -/

/-- What the file of a kind is to hold: the first occurrences in everything that the jobs among
the items of a source file contribute to the kind. -/
def accumulatedFile
    (package : Package)
    (items : List (Node .item))
    (kind : ArtifactKind) :
    SourceFile where
  attributes :=
    ((fragmentsOf package items kind).flatMap SourceFile.attributes).eraseDupsBy
      Node.sameAttribute
  items := ((fragmentsOf package items kind).flatMap SourceFile.items).eraseDupsBy Node.sameItem

/-- The task of a kind after every contribution to the kind was merged. -/
def mergedTask
    (package : Package)
    (items : List (Node .item))
    (kind : ArtifactKind) :
    ArtifactTask :=
  (fragmentsOf package items kind).foldl ArtifactTask.merge (.empty kind)

theorem mergedTask_eq (package : Package) (items : List (Node .item)) (kind : ArtifactKind) :
    mergedTask package items kind
      = ⟨kind, (accumulatedFile package items kind).attributes,
          (accumulatedFile package items kind).items⟩ :=
  ArtifactTask.foldl_merge_empty kind _

theorem mergedTask_kind (package : Package) (items : List (Node .item)) (kind : ArtifactKind) :
    (mergedTask package items kind).kind = kind := by
  rw [mergedTask_eq]

theorem mergedTask_content (package : Package) (items : List (Node .item)) (kind : ArtifactKind) :
    (mergedTask package items kind).content
      = generatedNotice ++ (accumulatedFile package items kind).text := by
  rw [mergedTask_eq]
  rfl

theorem mergedTask_target
    (package : Package)
    (items : List (Node .item))
    (root : Path)
    (kind : ArtifactKind) :
    (mergedTask package items kind).target root = root.join kind.relativePath := by
  rw [mergedTask_eq]
  rfl

/-- A run accumulates no two tasks of one kind. -/
theorem Build.accumulated_apart (package : Package) (items : List (Node .item)) :
    (Build.ofItems package items).accumulated.Pairwise
      fun task later => task.kind ≠ later.kind := by
  have folded : (Build.ofItems package items).accumulated
      = (selectedKinds package items).map (mergedTask package items) :=
    Build.accumulated_eq package items
  rw [folded, List.pairwise_map]
  apply (selectedKinds_inKeyOrder package items).nodup.imp
  intro kind later different
  simpa only [mergedTask_eq] using different

/-! ### The run -/

/-- Loading a source file changes no file. -/
theorem tree_runOn_loadSource
    {σ : Type}
    [Storage (StateM σ)]
    [ShowsTree σ]
    (input : Path)
    (state : σ) :
    ShowsTree.tree (runOn state (loadSource input)).2 = ShowsTree.tree state := by
  rcases loads : runOn state (loadSource input) with ⟨outcome, after⟩
  obtain ⟨read, between, reads, settled⟩ := runOn_lift_bind loads
  obtain ⟨unchanged, _⟩ := ShowsTree.readText reads
  rw [← unchanged]
  cases read with
  | error fault =>
      cases settled
      rfl
  | ok text =>
      simp only at settled
      split at settled
      case h_1 =>
        cases settled
        rfl
      case h_2 =>
        cases settled
        rfl

theorem run_loadSource_of_readText
    {tree : FileTree}
    {input : Path}
    {text : String}
    {file : SourceFile}
    (reads : tree.readText input = .ok text)
    (parses : SourceFile.ofText? text = some file) :
    tree.run (loadSource input) = (.ok file, tree) := by
  have read : (Storage.readText input : StateM FileTree _) tree = (.ok text, tree) := by
    rw [← reads]
    rfl
  rw [FileTree.run_eq_runOn, loadSource, runOn_bind, runOn_lift, read]
  simp only [parses]
  rfl

/-- A run emits the accumulated tasks, and reports what became of them beside the failures and the
skipped declarations. -/
theorem runOn_generate
    {σ : Type}
    [Storage (StateM σ)]
    (package : Package)
    (root : Path)
    (file : SourceFile)
    (state : σ) :
    runOn state (generate package root file)
      = match runOn state
          ((Build.ofItems package file.items).accumulated.mapM (ArtifactTask.emit root)) with
        | (.ok emitted, after) =>
            (.ok ⟨emitted, (Build.ofItems package file.items).failed,
              (Build.ofItems package file.items).skipped⟩, after)
        | (.error failure, after) => (.error failure, after) := by
  rw [generate, runOn_bind]
  rcases runOn state
    ((Build.ofItems package file.items).accumulated.mapM (ArtifactTask.emit root))
    with ⟨failure | emitted, after⟩
  · rfl
  · rfl

theorem run_generate_eq_ok
    {package : Package}
    {root : Path}
    {file : SourceFile}
    {tree after : FileTree}
    {report : GenerationReport}
    (succeeds : tree.run (generate package root file) = (.ok report, after)) :
    ∃ emitted,
      tree.run ((Build.ofItems package file.items).accumulated.mapM (ArtifactTask.emit root))
          = (.ok emitted, after)
        ∧ report = ⟨emitted, (Build.ofItems package file.items).failed,
            (Build.ofItems package file.items).skipped⟩ := by
  obtain ⟨emitted, between, emits, returns⟩ := FileTree.run_bind_eq_ok succeeds
  cases returns
  exact ⟨emitted, emits, rfl⟩

/-- What a run over a source file leaves on a tree if it succeeds, for the kinds that it
selects. -/
structure LeavesAccumulatedFiles
    (package : Package)
    (root : Path)
    (file : SourceFile)
    (before after : FileTree)
    (report : GenerationReport)
    (kinds : List ArtifactKind) : Prop where
  /-- Keys increase strictly, so no kind is there twice. -/
  inOrder : kinds.Pairwise fun kind later => kind.key < later.key
  /-- The kinds are those that a job which completes selects. -/
  selected : ∀ kind, kind ∈ kinds
    ↔ ∃ job ∈ (Discovery.ofItems package file.items).jobs,
        (∃ done, job.run = .ok done) ∧ kind ∈ job.directive.artifactKinds
  /-- The report lists one path for each kind. -/
  reported : report.emitted.map EmittedFile.path
    = kinds.map fun kind => root.join kind.relativePath
  /-- Behind the notice, a file holds the first occurrences in everything that completed jobs
  contribute to its kind, in the order of the source. -/
  content : ∀ kind ∈ kinds,
    after.readText (root.join kind.relativePath)
      = .ok (generatedNotice ++ (accumulatedFile package file.items kind).text)
  /-- Folding the tasks of each job, and these into one, is merging every contribution into
  one task. -/
  folded : (Build.ofItems package file.items).accumulated
    = kinds.map fun kind =>
        (fragmentsOf package file.items kind).foldl ArtifactTask.merge (.empty kind)
  /-- No other file changes. -/
  elsewhere : ∀ location,
    (∀ kind ∈ kinds, after.locate (root.join kind.relativePath) ≠ .ok location) →
    after.file? location = before.file? location
  /-- No file is written for any other kind. -/
  otherKinds : ∀ kind, kind ∉ kinds → ∀ location,
    after.locate (root.join kind.relativePath) = .ok location →
    after.file? location = before.file? location

/-- A run that succeeds leaves one file for each kind that a completed job selects, and touches
no other file. -/
theorem generate_leavesAccumulatedFiles
    {package : Package}
    {root : Path}
    {file : SourceFile}
    {tree after : FileTree}
    {report : GenerationReport}
    (succeeds : tree.run (generate package root file) = (.ok report, after)) :
    ∃ kinds, LeavesAccumulatedFiles package root file tree after report kinds := by
  obtain ⟨emitted, emits, rfl⟩ := run_generate_eq_ok succeeds
  have inOrder := selectedKinds_inKeyOrder package file.items
  have folded : (Build.ofItems package file.items).accumulated
      = (selectedKinds package file.items).map (mergedTask package file.items) :=
    Build.accumulated_eq package file.items
  have apart : ((selectedKinds package file.items).map (mergedTask package file.items)).Pairwise
      fun task later => task.kind ≠ later.kind := by
    rw [List.pairwise_map]
    apply inOrder.nodup.imp
    intro kind later different
    simpa only [mergedTask_eq] using different
  rw [folded] at emits
  obtain ⟨paths, inPlace⟩ := allInPlace_emit apart emits
  have elsewhere : ∀ location,
      (∀ kind ∈ selectedKinds package file.items,
        after.locate (root.join kind.relativePath) ≠ .ok location) →
      after.file? location = tree.file? location := by
    intro location noTarget
    apply inPlace.elsewhere
    intro task member
    obtain ⟨kind, selected, rfl⟩ := List.mem_map.mp member
    rw [mergedTask_target]
    exact noTarget kind selected
  refine ⟨selectedKinds package file.items, inOrder, ?_, ?_, ?_, folded, elsewhere, ?_⟩
  · intro kind
    simp only [mem_selectedKinds, Job.completes_iff]
  · rw [paths, List.map_map]
    apply List.map_congr_left
    intro kind _
    exact mergedTask_target package file.items root kind
  · intro kind selected
    have held := inPlace.held _ (List.mem_map_of_mem selected)
    rwa [mergedTask_target, mergedTask_content] at held
  · intro kind notSelected location located
    apply elsewhere
    intro other selected otherLocated
    have same := FileTree.locate_target_injective located otherLocated
    rw [same] at notSelected
    exact notSelected selected

/-! ### A run over one trait -/

/-- A documented trait without methods that asks for the files that every service gets. -/
def bareService : SourceFile where
  attributes := []
  items :=
    [.traitItem
      (.cons (.valueAttribute false ⟨false, ["doc"]⟩ (.literalExpr "\" servicegen:service\"")) .nil)
      .everywhere false false "Calc" (.genericList false .nil false .absent false)
      false .nil false .nil .nil]

/-- The job that the trait is. -/
def bareJob : Job :=
  ⟨⟨"Calc", [], false⟩, ⟨"calc", "calc"⟩, ⟨false, false, false, false⟩⟩

theorem bareService_jobs :
    (Discovery.ofItems ⟨"calc", "calc"⟩ bareService.items).jobs = [bareJob] := rfl

theorem bareJob_completes : bareJob.completes = true := by
  rw [Job.completes_iff_fragments]
  refine ⟨⟨⟨"Calc", "calc", [], false⟩, "calc", bareJob.directive⟩, rfl, ?_⟩
  intro kind selected
  rw [Service.exists_fragment_iff]
  have baseline : kind = .implementation ∨ kind = .transport := by
    revert kind
    decide
  rcases baseline with rfl | rfl
  all_goals
    apply ArtifactKind.isSome_of_spelledLines
    · repeat first
        | exact .nil
        | apply Artifact.SpelledLines.cons
        | apply Artifact.Line.Spells.fixed
        | apply Artifact.Line.Spells.piece
    · decide +kernel

theorem selectedKinds_of_bareJob
    {package : Package}
    {items : List (Node .item)}
    (isBareJob : (Discovery.ofItems package items).jobs = [bareJob]) :
    selectedKinds package items = [.implementation, .transport] := by
  rw [selectedKinds, isBareJob]
  simp only [List.any_cons, List.any_nil, bareJob_completes, Bool.true_and, Bool.or_false]
  decide

theorem bareService_accumulated :
    (Build.ofItems ⟨"calc", "calc"⟩ bareService.items).accumulated
      = [mergedTask ⟨"calc", "calc"⟩ bareService.items .implementation,
          mergedTask ⟨"calc", "calc"⟩ bareService.items .transport] := by
  rw [Build.accumulated_eq, selectedKinds_of_bareJob bareService_jobs]
  rfl

/-- The tree after the first file of the run was put in place. -/
def bareFirstTree (implementationText : String) : FileTree :=
  ⟨["work"], [(["work"], .directory), (["work", "out"], .directory),
    (["work", "out", "implementation_gen.rs"], .file (.text implementationText))]⟩

/-- The tree after both files of the run were put in place. -/
def bareLastTree (implementationText transportText : String) : FileTree :=
  ⟨["work"], [(["work"], .directory), (["work", "out"], .directory),
    (["work", "out", "implementation_gen.rs"], .file (.text implementationText)),
    (["work", "out", "transport"], .directory),
    (["work", "out", "transport", "transport_gen.rs"], .file (.text transportText))]⟩

theorem run_writeChanged_implementation (text : String) :
    FileTree.run ⟨["work"], [(["work"], .directory), (["work", "out"], .directory)]⟩
        (writeChanged ⟨"out/implementation_gen.rs"⟩ text)
      = (.ok .written, bareFirstTree text) := by
  have temporaryLocated : FileTree.locate
      ⟨["work"], [(["work"], .directory), (["work", "out"], .directory)]⟩
      (temporaryPath (Path.directory ⟨"out/implementation_gen.rs"⟩) 0)
      = .ok ["work", "out", ".tmp0"] := rfl
  have located : FileTree.locate
      ⟨["work"], [(["work"], .directory), (["work", "out"], .directory)]⟩
      ⟨"out/implementation_gen.rs"⟩
      = .ok ["work", "out", "implementation_gen.rs"] := rfl
  exact run_writeChanged_of_free text temporaryLocated rfl located rfl (by decide)

theorem run_writeChanged_transport (implementationText text : String) :
    FileTree.run
        ⟨["work"], [(["work"], .directory), (["work", "out"], .directory),
          (["work", "out", "implementation_gen.rs"], .file (.text implementationText)),
          (["work", "out", "transport"], .directory)]⟩
        (writeChanged ⟨"out/transport/transport_gen.rs"⟩ text)
      = (.ok .written, bareLastTree implementationText text) := by
  have temporaryLocated : FileTree.locate
      ⟨["work"], [(["work"], .directory), (["work", "out"], .directory),
        (["work", "out", "implementation_gen.rs"], .file (.text implementationText)),
        (["work", "out", "transport"], .directory)]⟩
      (temporaryPath (Path.directory ⟨"out/transport/transport_gen.rs"⟩) 0)
      = .ok ["work", "out", "transport", ".tmp0"] := rfl
  have located : FileTree.locate
      ⟨["work"], [(["work"], .directory), (["work", "out"], .directory),
        (["work", "out", "implementation_gen.rs"], .file (.text implementationText)),
        (["work", "out", "transport"], .directory)]⟩
      ⟨"out/transport/transport_gen.rs"⟩
      = .ok ["work", "out", "transport", "transport_gen.rs"] := rfl
  exact run_writeChanged_of_free text temporaryLocated rfl located rfl (by decide)

/-- On a tree in which nothing stands in the way, the run succeeds. -/
theorem generate_bareService_succeeds :
    ∃ report after,
      (FileTree.empty ["work"]).run (generate ⟨"calc", "calc"⟩ ⟨"out"⟩ bareService)
        = (.ok report, after) := by
  have implementationPath : (⟨"out"⟩ : Path).join ArtifactKind.implementation.relativePath
      = ⟨"out/implementation_gen.rs"⟩ := by
    decide
  have transportPath : (⟨"out"⟩ : Path).join ArtifactKind.transport.relativePath
      = ⟨"out/transport/transport_gen.rs"⟩ := by
    decide
  rw [generate, bareService_accumulated]
  simp only [List.mapM_cons, List.mapM_nil, ArtifactTask.emit, mergedTask_target,
    implementationPath, transportPath]
  -- Nothing is there yet, so the contents are never compared and may stay unknown.
  generalize (mergedTask _ _ .implementation).content = implementationText
  generalize (mergedTask _ _ .transport).content = transportText
  have outMade : (FileTree.empty ["work"]).run (makeDirectoryFor ⟨"out/implementation_gen.rs"⟩)
      = (.ok (), ⟨["work"], [(["work"], .directory), (["work", "out"], .directory)]⟩) := rfl
  have transportMade : (bareFirstTree implementationText).run
        (makeDirectoryFor ⟨"out/transport/transport_gen.rs"⟩)
      = (.ok (), ⟨["work"], [(["work"], .directory), (["work", "out"], .directory),
          (["work", "out", "implementation_gen.rs"], .file (.text implementationText)),
          (["work", "out", "transport"], .directory)]⟩) := rfl
  simp only [FileTree.run_bind, FileTree.run_pure, outMade, run_writeChanged_implementation,
    transportMade, run_writeChanged_transport]
  exact ⟨_, _, rfl⟩

theorem generate_leavesAccumulatedFiles_of_bareService :
    ∃ report after kinds,
      (FileTree.empty ["work"]).run (generate ⟨"calc", "calc"⟩ ⟨"out"⟩ bareService)
          = (.ok report, after)
        ∧ LeavesAccumulatedFiles ⟨"calc", "calc"⟩ ⟨"out"⟩ bareService (FileTree.empty ["work"])
            after report kinds := by
  obtain ⟨report, after, succeeds⟩ := generate_bareService_succeeds
  obtain ⟨kinds, leaves⟩ := generate_leavesAccumulatedFiles succeeds
  exact ⟨report, after, kinds, succeeds, leaves⟩

end Scaffold
