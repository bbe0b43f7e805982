import Scaffold.Proofs.Generation.Run

/-!
Contract: the files that a run leaves behind, whether it succeeds or fails.

Owns:
- the kinds whose files are in place when a run ends, and those whose files are not;
- the run over a tree, and the run over a volume that refuses operations.

Does not own: the contents of the files.
-/

namespace Scaffold

open Source

/-- What a run over a source file leaves on a tree, with the files of the kinds in `done` in place
and those of the kinds in `rest` not written. -/
structure LeavesFirstFiles
    (package : Package)
    (root : Path)
    (file : SourceFile)
    (before after : FileTree)
    (done rest : List ArtifactKind) : Prop where
  /-- The kinds are all that the run selects, each once. -/
  selected : selectedKinds package file.items = done ++ rest
  /-- Keys increase strictly, so the kinds in `done` come before those in `rest`. -/
  inOrder : ArtifactKind.InKeyOrder (done ++ rest)
  /-- A file that is in place is complete. -/
  complete : ∀ kind ∈ done,
    after.readText (root.join kind.relativePath)
      = .ok (generatedNotice ++ (accumulatedFile package file.items kind).text)
  /-- A file that is not written is as it was, or still absent. -/
  untouched : ∀ kind ∈ rest, ∀ location,
    after.locate (root.join kind.relativePath) = .ok location →
    after.file? location = before.file? location
  /-- No other file changes. -/
  elsewhere : ∀ location,
    (∀ kind ∈ done, after.locate (root.join kind.relativePath) ≠ .ok location) →
    after.file? location = before.file? location
  /-- No file is new but those in place, so none of the temporary ones is left. -/
  noneLeft : ∀ location content,
    after.file? location = some content →
    before.file? location = some content
      ∨ ∃ kind ∈ done, after.locate (root.join kind.relativePath) = .ok location
  /-- No directory is lost, so a path that led somewhere leads there still. -/
  directories : before.KeepsDirectories after

theorem LeavesFirstFiles.ofAllInPlace
    {package : Package}
    {root : Path}
    {file : SourceFile}
    {before after : FileTree}
    {done rest : List ArtifactKind}
    (selected : selectedKinds package file.items = done ++ rest)
    (inPlace : AllInPlace root (done.map (mergedTask package file.items)) before after) :
    LeavesFirstFiles package root file before after done rest := by
  have inOrder : ArtifactKind.InKeyOrder (done ++ rest) := by
    rw [← selected]
    exact selectedKinds_inKeyOrder package file.items
  have elsewhere : ∀ location,
      (∀ kind ∈ done, after.locate (root.join kind.relativePath) ≠ .ok location) →
      after.file? location = before.file? location := by
    intro location noTarget
    apply inPlace.elsewhere
    intro task member
    obtain ⟨kind, isDone, rfl⟩ := List.mem_map.mp member
    rw [mergedTask_target]
    exact noTarget kind isDone
  refine ⟨selected, inOrder, ?_, ?_, elsewhere, ?_, inPlace.keeps⟩
  · intro kind isDone
    have held := inPlace.held _ (List.mem_map_of_mem isDone)
    rwa [mergedTask_target, mergedTask_content] at held
  · intro kind isLeft location located
    apply elsewhere
    intro other isDone otherLocated
    have same := FileTree.locate_target_injective located otherLocated
    rw [← same] at isDone
    exact (List.nodup_append.mp inOrder.nodup).2.2 kind isDone kind isLeft rfl
  · intro location content isFile
    by_cases isTarget : ∃ kind ∈ done, after.locate (root.join kind.relativePath) = .ok location
    · exact .inr isTarget
    · left
      rw [← isFile]
      symm
      apply elsewhere
      intro kind isDone located
      exact isTarget ⟨kind, isDone, located⟩

/-- How a run ends: with everything in place, or in a failure about the first file that is not. -/
def EndsAt
    (root : Path)
    (rest : List ArtifactKind)
    (outcome : Except Failure GenerationReport) : Prop :=
  EndsIn
    (fun _ => rest = [])
    (fun failure => ∃ kind later,
      rest = kind :: later ∧ failure.IsOfFile (root.join kind.relativePath))
    outcome

/-- On every state that shows a tree, a run leaves the first few files complete and all others as
they were. -/
theorem exists_leavesFirstFiles
    {σ : Type}
    [Storage (StateM σ)]
    [ShowsTree σ]
    (package : Package)
    (root : Path)
    (file : SourceFile)
    (state : σ) :
    ∃ done rest,
      LeavesFirstFiles package root file (ShowsTree.tree state)
          (ShowsTree.tree (runOn state (generate package root file)).2) done rest
        ∧ EndsAt root rest (runOn state (generate package root file)).1 := by
  have apart := Build.accumulated_apart package file.items
  have folded : (Build.ofItems package file.items).accumulated
      = (selectedKinds package file.items).map (mergedTask package file.items) :=
    Build.accumulated_eq package file.items
  rw [folded] at apart
  rw [generate, runOn_bind, folded]
  cases emits : runOn state
      (((selectedKinds package file.items).map (mergedTask package file.items)).mapM
        (ArtifactTask.emit root)) with
  | mk outcome after =>
      obtain ⟨doneTasks, restTasks, split, inPlace, ends⟩ := exists_allInPlace_emit apart emits
      obtain ⟨done, rest, selected, rfl, rfl⟩ := List.map_eq_append_iff.mp split
      cases outcome with
      | ok emitted =>
          refine ⟨done, rest, .ofAllInPlace selected inPlace, ?_⟩
          exact List.map_eq_nil_iff.mp ends.1
      | error failure =>
          refine ⟨done, rest, .ofAllInPlace selected inPlace, ?_⟩
          obtain ⟨task, laterTasks, isNext, isOfFile⟩ := ends
          obtain ⟨kind, later, rfl, rfl, rfl⟩ := List.map_eq_cons_iff.mp isNext
          rw [mergedTask_target] at isOfFile
          exact ⟨kind, later, rfl, isOfFile⟩

/-- Whatever a run comes to, no file is left half written.

The kinds that a run selects fall into two parts in the order of keys. The files of the first
part are complete; those of the second part, and every other file, are as they were, and no
temporary file is left. The second part is empty where the run succeeds, and where it fails the
failure is about the first file of it. This is so on every tree, and on every volume, whichever
operations this refuses and whatever these leave of the directories and the text that they
were to make. -/
theorem generate_leaves_whole_files (package : Package) (root : Path) (file : SourceFile) :
    (∀ tree : FileTree, ∃ done rest,
      LeavesFirstFiles package root file tree (tree.run (generate package root file)).2 done rest
        ∧ EndsAt root rest (tree.run (generate package root file)).1)
      ∧ ∀ volume : Volume, ∃ done rest,
          LeavesFirstFiles package root file volume.tree
              (runOn volume (generate package root file)).2.tree done rest
            ∧ EndsAt root rest (runOn volume (generate package root file)).1 :=
  ⟨fun tree => exists_leavesFirstFiles package root file tree,
    fun volume => exists_leavesFirstFiles package root file volume⟩

end Scaffold
