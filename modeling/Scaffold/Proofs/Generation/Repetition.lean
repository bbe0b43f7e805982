import Scaffold.Proofs.Generation.Run

/-!
Contract: a run that is repeated on the tree that it left.

Owns:
- directories and files that are found where they were put;
- the outcome of the second run, and the tree that it leaves.

Does not own: the contents of the files.
-/

namespace Scaffold

open Source

/-! ### Directories that are there already -/

namespace FileTree

theorem isDirectory_iff {tree : FileTree} {path : Path} :
    tree.isDirectory path = true
      ↔ ∃ location, tree.locate path = .ok location
          ∧ tree.standing? location = some .directory := by
  rw [isDirectory, lookup]
  cases located : tree.locate path with
  | error fault => simp [bind, Except.bind]
  | ok location =>
      simp only [bind, Except.bind, pure, Except.pure, throw, throwThe, MonadExceptOf.throw,
        Except.ok.injEq, exists_eq_left']
      cases tree.standing? location with
      | none => simp
      | some entry => cases entry <;> simp

theorem KeepsDirectories.isDirectory
    {before after : FileTree}
    (keeps : KeepsDirectories before after)
    {path : Path}
    (isThere : before.isDirectory path = true) :
    after.isDirectory path = true := by
  rw [isDirectory_iff] at isThere ⊢
  obtain ⟨location, located, stands⟩ := isThere
  exact ⟨location, keeps.locate located, keeps.directory location stands⟩

theorem isDirectory_of_makeDirectory
    {tree made : FileTree}
    {path : Path}
    (makes : tree.makeDirectory path = .ok made) :
    made.isDirectory path = true := by
  have keeps := (furnishes_makeDirectory makes).keepsDirectories
  obtain ⟨location, located, free, rfl⟩ := create_eq_ok makes
  rw [isDirectory_iff]
  exact ⟨location, keeps.locate located,
    standing?_put_self tree (ne_nil_of_standing?_eq_none free) _⟩

/-- Where making the first of a row of directories succeeds, it is there. -/
theorem isDirectory_of_makeFirst
    {tree after : FileTree}
    {path : Path}
    {outer : List Path}
    (makes : tree.makeFirst (path :: outer) = (.ok (), after)) :
    after.isDirectory path = true := by
  rw [makeFirst] at makes
  split at makes
  case h_1 made makesIt =>
    cases makes
    exact isDirectory_of_makeDirectory makesIt
  case h_2 =>
    split at makes
    case h_1 => cases makes
    case h_2 rest _ =>
      split at makes
      case h_1 made makesIt =>
        cases makes
        exact isDirectory_of_makeDirectory makesIt
      case h_2 =>
        obtain ⟨isThere, rfl⟩ := Prod.mk.inj makes
        split at isThere
        case isTrue there => exact there
        case isFalse => cases isThere
  case h_3 =>
    obtain ⟨isThere, rfl⟩ := Prod.mk.inj makes
    split at isThere
    case isTrue there => exact there
    case isFalse => cases isThere

/-- Making a directory that is there changes nothing. -/
theorem makeFirst_of_isDirectory
    {tree : FileTree}
    {path : Path}
    (isThere : tree.isDirectory path = true)
    (outer : List Path) :
    tree.makeFirst (path :: outer) = (.ok (), tree) := by
  have exists_already : tree.makeDirectory path = .error .alreadyExists := by
    obtain ⟨location, located, stands⟩ := isDirectory_iff.mp isThere
    simp only [makeDirectory, create, located, bind, Except.bind, stands]
    rfl
  rw [makeFirst, exists_already]
  simp only [isThere, if_true]

theorem ancestors_eq_nil_or_cons (path : Path) :
    path.ancestors = [] ∨ ∃ outer, path.ancestors = path :: outer := by
  rw [Path.ancestors, Path.ancestorsUpTo]
  split
  · exact .inl rfl
  · split
    · exact .inr ⟨_, rfl⟩
    · exact .inr ⟨[], rfl⟩

/-- Directories that were made are not made again as long as none is lost. -/
theorem makeDirectories_again
    {before after final : FileTree}
    {path : Path}
    (makes : before.makeDirectories path = (.ok (), after))
    (keeps : KeepsDirectories after final) :
    final.makeDirectories path = (.ok (), final) := by
  rw [makeDirectories] at makes ⊢
  rcases ancestors_eq_nil_or_cons path with isNil | ⟨outer, isCons⟩
  · rw [isNil]
    rfl
  · rw [isCons] at makes ⊢
    exact makeFirst_of_isDirectory (keeps.isDirectory (isDirectory_of_makeFirst makes)) outer

end FileTree

/-! ### Files that are there already -/

theorem run_makeDirectoryFor_again
    {before after final : FileTree}
    {path : Path}
    (makes : before.run (makeDirectoryFor path) = (.ok (), after))
    (keeps : after.KeepsDirectories final) :
    final.run (makeDirectoryFor path) = (.ok (), final) := by
  rw [makeDirectoryFor] at makes ⊢
  split
  case h_1 => rfl
  case h_2 directory isParent =>
    rw [isParent] at makes
    obtain ⟨done, between, made, settled⟩ := runOn_lift_bind makes
    cases done with
    | error fault => cases settled
    | ok =>
        cases settled
        have madeHere : before.makeDirectories directory = (.ok (), after) := made
        have again : (Storage.makeDirectories directory : StateM FileTree _) final
            = (.ok (), final) :=
          FileTree.makeDirectories_again madeHere keeps
        rw [FileTree.run_eq_runOn, runOn_bind, runOn_lift, again]
        rfl

/-- A text that a path holds already is not written. -/
theorem run_writeChanged_of_held
    {tree : FileTree}
    {path : Path}
    {text : String}
    (held : tree.readText path = .ok text) :
    tree.run (writeChanged path text) = (.ok .unchanged, tree) := by
  have read : (Storage.readText path : StateM FileTree _) tree = (.ok text, tree) := by
    rw [← held]
    rfl
  rw [FileTree.run_eq_runOn, writeChanged, runOn_bind, runOn_lift, read]
  simp only [if_true]
  rfl

/-- A file that was emitted is not written again as long as it holds its content and no directory
is lost. -/
theorem run_emit_again
    {before after final : FileTree}
    {root : Path}
    {task : ArtifactTask}
    {emitted : EmittedFile}
    (emits : before.run (task.emit root) = (.ok emitted, after))
    (keeps : after.KeepsDirectories final)
    (held : final.readText (task.target root) = .ok task.content) :
    final.run (task.emit root) = (.ok ⟨task.target root, .unchanged⟩, final) := by
  obtain ⟨_, furnished, makes, writesAndReturns⟩ := FileTree.run_bind_eq_ok emits
  obtain ⟨status, between, writes, returns⟩ := FileTree.run_bind_eq_ok writesAndReturns
  cases returns
  obtain ⟨location, puts⟩ := putsInPlace_writeChanged writes
  have madeAgain := run_makeDirectoryFor_again makes (puts.keepsDirectories.trans keeps)
  rw [ArtifactTask.emit, FileTree.run_bind, madeAgain]
  simp only
  rw [FileTree.run_bind, run_writeChanged_of_held held]
  rfl

/-- Files that were emitted one after the other are not written again. -/
theorem run_mapM_emit_again
    {before after final : FileTree}
    {root : Path}
    {tasks : List ArtifactTask}
    {emitted : List EmittedFile}
    (apart : tasks.Pairwise fun task later => task.kind ≠ later.kind)
    (emits : before.run (tasks.mapM (ArtifactTask.emit root)) = (.ok emitted, after))
    (keeps : after.KeepsDirectories final)
    (held : ∀ task ∈ tasks, final.readText (task.target root) = .ok task.content) :
    final.run (tasks.mapM (ArtifactTask.emit root))
      = (.ok (tasks.map fun task => ⟨task.target root, .unchanged⟩), final) := by
  induction tasks generalizing before emitted with
  | nil => rfl
  | cons task rest inductionHypothesis =>
      rw [List.mapM_cons] at emits ⊢
      obtain ⟨file, between, emitsFirst, emitsRest⟩ := FileTree.run_bind_eq_ok emits
      obtain ⟨files, last, emitsLater, returns⟩ := FileTree.run_bind_eq_ok emitsRest
      cases returns
      obtain ⟨_, apartLater⟩ := List.pairwise_cons.mp apart
      obtain ⟨_, laterInPlace⟩ := allInPlace_emit apartLater emitsLater
      obtain ⟨heldFirst, heldLater⟩ := List.forall_mem_cons.mp held
      have firstAgain := run_emit_again emitsFirst (laterInPlace.keeps.trans keeps) heldFirst
      have laterAgain := inductionHypothesis apartLater emitsLater heldLater
      rw [FileTree.run_bind, firstAgain]
      simp only
      rw [FileTree.run_bind, laterAgain]
      rfl

/-! ### The second run -/

/-- A run that succeeded succeeds again on the tree that it left: it reports the same paths in the
same order, none of them written, with the same failures and the same that was passed over, and
leaves the tree exactly as it is. -/
theorem generate_again_changes_nothing
    {package : Package}
    {root : Path}
    {file : SourceFile}
    {tree after : FileTree}
    {report : GenerationReport}
    (succeeds : tree.run (generate package root file) = (.ok report, after)) :
    after.run (generate package root file)
      = (.ok { report with
          emitted := report.emitted.map fun emitted => { emitted with status := .unchanged } },
        after) := by
  obtain ⟨emitted, emits, rfl⟩ := run_generate_eq_ok succeeds
  have apart := Build.accumulated_apart package file.items
  obtain ⟨paths, inPlace⟩ := allInPlace_emit apart emits
  have again := run_mapM_emit_again apart emits (.refl after) inPlace.held
  have sameFiles : ((Build.ofItems package file.items).accumulated.map fun task =>
        (⟨task.target root, .unchanged⟩ : EmittedFile))
      = emitted.map fun file => { file with status := .unchanged } := by
    have pathsUnchanged := congrArg (List.map fun path => (⟨path, .unchanged⟩ : EmittedFile)) paths
    rw [List.map_map, List.map_map] at pathsUnchanged
    exact pathsUnchanged.symm
  rw [FileTree.run_eq_runOn] at again ⊢
  rw [runOn_generate, again, sameFiles]

theorem generate_again_changes_nothing_of_bareService :
    ∃ report after,
      (FileTree.empty ["work"]).run (generate ⟨"calc", "calc"⟩ ⟨"out"⟩ bareService)
          = (.ok report, after)
        ∧ after.run (generate ⟨"calc", "calc"⟩ ⟨"out"⟩ bareService)
            = (.ok { report with
                emitted := report.emitted.map fun emitted =>
                  { emitted with status := .unchanged } },
              after) := by
  obtain ⟨report, after, succeeds⟩ := generate_bareService_succeeds
  exact ⟨report, after, succeeds, generate_again_changes_nothing succeeds⟩

end Scaffold
