import Scaffold.Generation.Emission
import Scaffold.Proofs.Files.Volume

/-!
Contract: the tree that a row of emitted files leaves.

Owns:
- what an action on files comes to on a state;
- the effect of replacing and of emitting one file, whether it succeeds or not;
- the effect of emitting one file after the other, up to the first that fails.

Does not own: which tasks a run emits.
-/

namespace Scaffold

/-! ### Actions on files -/

/-- The outcome of an action on files, and the state that the action leaves. -/
def runOn
    {ε σ α : Type}
    (state : σ)
    (action : ExceptT ε (StateM σ) α) :
    Except ε α × σ :=
  action.run.run state |>.run

/-- What is so where an action succeeds, and what is so where it fails. -/
def EndsIn
    {ε α : Type}
    (success : α → Prop)
    (failure : ε → Prop) :
    Except ε α → Prop
  | .ok value => success value
  | .error cause => failure cause

theorem runOn_bind
    {ε σ α β : Type}
    (state : σ)
    (action : ExceptT ε (StateM σ) α)
    (next : α → ExceptT ε (StateM σ) β) :
    runOn state (action >>= next)
      = match runOn state action with
        | (.ok value, between) => runOn between (next value)
        | (.error failure, between) => (.error failure, between) := by
  simp only [runOn, ExceptT.run, StateT.run, Id.run, bind, ExceptT.bind, ExceptT.mk, StateT.bind]
  cases action state with
  | mk outcome between => cases outcome <;> rfl

/-- An action with another one behind it goes on to the other one, or ends in the failure of the
first. -/
theorem runOn_bind_cases
    {ε σ α β : Type}
    {state after : σ}
    {action : ExceptT ε (StateM σ) α}
    {next : α → ExceptT ε (StateM σ) β}
    {outcome : Except ε β}
    (runs : runOn state (action >>= next) = (outcome, after)) :
    (∃ value between, runOn state action = (.ok value, between)
        ∧ runOn between (next value) = (outcome, after))
      ∨ ∃ failure, runOn state action = (.error failure, after) ∧ outcome = .error failure := by
  rw [runOn_bind] at runs
  split at runs
  case h_1 value between first => exact .inl ⟨value, between, first, runs⟩
  case h_2 failure between first =>
    cases runs
    exact .inr ⟨failure, first, rfl⟩

theorem runOn_lift
    {ε σ α : Type}
    (state : σ)
    (operation : StateM σ α) :
    runOn state (liftM operation : ExceptT ε (StateM σ) α)
      = (.ok (operation state).1, (operation state).2) := rfl

/-- An operation with an action behind it goes on to the action with whatever it returns. -/
theorem runOn_lift_bind
    {ε σ α β : Type}
    {state after : σ}
    {operation : StateM σ α}
    {next : α → ExceptT ε (StateM σ) β}
    {outcome : Except ε β}
    (runs : runOn state (liftM operation >>= next) = (outcome, after)) :
    ∃ value between, operation state = (value, between)
      ∧ runOn between (next value) = (outcome, after) := by
  rw [runOn_bind, runOn_lift] at runs
  exact ⟨_, _, rfl, runs⟩

namespace FileTree

/-- The outcome of an action on files, and the tree that the action leaves. -/
def run
    {α : Type}
    (tree : FileTree)
    (action : ExceptT Failure (StateM FileTree) α) :
    Except Failure α × FileTree :=
  action.run.run tree |>.run

theorem run_eq_runOn
    {α : Type}
    (tree : FileTree)
    (action : ExceptT Failure (StateM FileTree) α) :
    tree.run action = runOn tree action := rfl

theorem run_pure {α : Type} (tree : FileTree) (value : α) :
    tree.run (pure value) = (.ok value, tree) := rfl

theorem run_bind
    {α β : Type}
    (tree : FileTree)
    (action : ExceptT Failure (StateM FileTree) α)
    (next : α → ExceptT Failure (StateM FileTree) β) :
    tree.run (action >>= next)
      = match tree.run action with
        | (.ok value, between) => between.run (next value)
        | (.error failure, between) => (.error failure, between) := by
  rw [run_eq_runOn, run_eq_runOn, runOn_bind]
  rcases runOn tree action with ⟨failure | value, between⟩
  · rfl
  · rfl

/-- An action with another one behind it succeeds where both do. -/
theorem run_bind_eq_ok
    {α β : Type}
    {tree after : FileTree}
    {action : ExceptT Failure (StateM FileTree) α}
    {next : α → ExceptT Failure (StateM FileTree) β}
    {result : β}
    (succeeds : tree.run (action >>= next) = (.ok result, after)) :
    ∃ value between, tree.run action = (.ok value, between)
      ∧ between.run (next value) = (.ok result, after) := by
  rcases runOn_bind_cases succeeds with goesOn | ⟨failure, _, fails⟩
  · exact goesOn
  · cases fails

end FileTree

/-! ### Why emitting a file fails -/

/-- Is the failure one of making the directory of a file, or of writing the file? -/
def Failure.IsOfFile (path : Path) (failure : Failure) : Prop :=
  (∃ directory fault, path.parent? = some directory ∧ failure = .directoryCreate directory fault)
    ∨ ∃ fault, failure = .fileWrite path fault

section Failing

variable {σ : Type} [Storage (StateM σ)] {state after : σ} {failure : Failure}

theorem isOfFile_makeDirectoryFor
    {path : Path}
    (fails : runOn state (makeDirectoryFor path) = (.error failure, after)) :
    failure.IsOfFile path := by
  rw [makeDirectoryFor] at fails
  split at fails
  case h_1 => cases fails
  case h_2 directory isParent =>
    obtain ⟨done, between, made, settled⟩ := runOn_lift_bind fails
    cases done with
    | ok => cases settled
    | error fault =>
        cases settled
        exact .inl ⟨directory, fault, isParent, rfl⟩

theorem isOfFile_replaceWith
    {path : Path}
    {text : String}
    (fails : runOn state (writeChanged.replaceWith path text) = (.error failure, after)) :
    failure.IsOfFile path := by
  obtain ⟨done, between, replaced, settled⟩ := runOn_lift_bind fails
  cases done with
  | ok => cases settled
  | error fault =>
      cases settled
      exact .inr ⟨fault, rfl⟩

theorem isOfFile_writeChanged
    {path : Path}
    {text : String}
    (fails : runOn state (writeChanged path text) = (.error failure, after)) :
    failure.IsOfFile path := by
  obtain ⟨held, between, read, settled⟩ := runOn_lift_bind fails
  cases held with
  | error fault => exact isOfFile_replaceWith settled
  | ok old =>
      simp only at settled
      split at settled
      case isTrue => cases settled
      case isFalse => exact isOfFile_replaceWith settled

/-- Whatever the place where files are kept does, a task is not emitted only because of its own
file. -/
theorem isOfFile_emit
    {root : Path}
    {task : ArtifactTask}
    (fails : runOn state (task.emit root) = (.error failure, after)) :
    failure.IsOfFile (task.target root) := by
  rcases runOn_bind_cases fails with ⟨_, furnished, _, writesAndReturns⟩ | ⟨_, makes, same⟩
  · rcases runOn_bind_cases writesAndReturns with ⟨_, _, _, returns⟩ | ⟨_, writes, same⟩
    · cases returns
    · cases same
      exact isOfFile_writeChanged writes
  · cases same
    exact isOfFile_makeDirectoryFor makes

end Failing

section Shown

open ShowsTree (tree)

variable {σ : Type} [Storage (StateM σ)] [ShowsTree σ] {state after : σ}

/-! ### Replacing a file -/

/-- A temporary file is made beside what stands on the tree, or nothing is changed. -/
theorem hasDraft_createTemporary
    {directory : Path}
    {attempts number : Nat}
    {outcome : Except Fault Path}
    (creates : (createTemporary directory attempts number : StateM σ _) state
      = (outcome, after)) :
    EndsIn
      (fun temporary => ∃ origin,
        FileTree.HasDraft temporary origin (.text "") (tree state) (tree after))
      (fun _ => tree after = tree state)
      outcome := by
  induction attempts generalizing number state with
  | zero =>
      cases creates
      rfl
  | succ attempts inductionHypothesis =>
      cases created : (Storage.createFile (temporaryPath directory number) : StateM σ _) state with
      | mk done between =>
          have step := ShowsTree.createFile created
          simp only [createTemporary, bind, StateT.bind, created] at creates
          split at creates
          case h_1 =>
            cases creates
            exact FileTree.hasDraft_createFile step
          case h_2 =>
            have left : tree between = tree state := step
            rw [← left]
            exact inductionHypothesis creates
          case h_3 =>
            cases creates
            exact step

/-- A temporary file takes the place of a file with the text that is written to it, or it is
still there and everything else is as before. -/
theorem putsInPlace_fillAndMove
    {before : FileTree}
    {temporary path : Path}
    {origin : Location}
    {content : Content}
    {text : String}
    {outcome : Except Fault Unit}
    (draft : FileTree.HasDraft temporary origin content before (tree state))
    (moves : runOn state (fillAndMove temporary path text) = (outcome, after)) :
    EndsIn
      (fun _ => ∃ location, PutsInPlace path text location before (tree after))
      (fun _ => ∃ left, FileTree.HasDraft temporary origin left before (tree after))
      outcome := by
  rcases runOn_bind_cases moves with ⟨_, filled, writes, restMoves⟩ | ⟨fault, writes, rfl⟩
  · have filledDraft : FileTree.HasDraft temporary origin (.text text) before (tree filled) := by
      rcases ShowsTree.writeText writes with done | ⟨_, _, isError, _⟩
      · exact draft.replace done
      · cases isError
    rcases runOn_bind_cases restMoves with ⟨_, synced, syncs, lastMoves⟩ | ⟨fault, syncs, rfl⟩
    · rw [← ShowsTree.sync syncs] at filledDraft
      rcases runOn_bind_cases lastMoves with ⟨_, permitted, permits, renames⟩ | ⟨fault, permits, rfl⟩
      · rw [← ShowsTree.permit permits] at filledDraft
        have renamed := ShowsTree.rename renames
        cases outcome with
        | ok => exact filledDraft.rename renamed
        | error fault =>
            have left : tree after = tree permitted := renamed
            rw [left]
            exact ⟨_, filledDraft⟩
      · rw [← ShowsTree.permit permits] at filledDraft
        exact ⟨_, filledDraft⟩
    · rw [← ShowsTree.sync syncs] at filledDraft
      exact ⟨_, filledDraft⟩
  · rcases ShowsTree.writeText writes with left | ⟨_, torn, _, tears⟩
    · have unchanged : tree after = tree state := left
      rw [unchanged]
      exact ⟨_, draft⟩
    · exact ⟨torn, draft.replace tears⟩

/-- A file is replaced as a whole, or everything stands as before. -/
theorem putsInPlace_replaceFile
    {path : Path}
    {text : String}
    {outcome : Except Fault Unit}
    (replaces : (replaceFile path text : StateM σ _) state = (outcome, after)) :
    EndsIn
      (fun _ => ∃ location, PutsInPlace path text location (tree state) (tree after))
      (fun _ => (tree state).Furnishes (tree after))
      outcome := by
  cases created : (createTemporary path.directory temporaryAttempts 0 : StateM σ _) state with
  | mk made drafted =>
      have draft := hasDraft_createTemporary created
      cases made with
      | error fault =>
          simp only [replaceFile, bind, StateT.bind, created] at replaces
          cases replaces
          have left : tree after = tree state := draft
          rw [left]
          exact .refl _
      | ok temporary =>
          obtain ⟨origin, drafts⟩ := draft
          cases moved : runOn drafted (fillAndMove temporary path text) with
          | mk done left =>
              have moves := putsInPlace_fillAndMove drafts moved
              have movedThere : (fillAndMove temporary path text : ExceptT Fault (StateM σ) _).run
                  drafted = (done, left) := moved
              simp only [replaceFile, bind, StateT.bind, created, movedThere] at replaces
              cases done with
              | ok =>
                  cases replaces
                  exact moves
              | error fault =>
                  cases replaces
                  obtain ⟨content, stillDrafts⟩ := moves
                  rw [ShowsTree.discard rfl]
                  exact stillDrafts.discard

/-! ### One file -/

theorem furnishes_makeDirectoryFor
    {path : Path}
    {outcome : Except Failure Unit}
    (makes : runOn state (makeDirectoryFor path) = (outcome, after)) :
    (tree state).Furnishes (tree after) := by
  rw [makeDirectoryFor] at makes
  split at makes
  case h_1 =>
    cases makes
    exact .refl _
  case h_2 directory _ =>
    obtain ⟨done, between, made, settled⟩ := runOn_lift_bind makes
    have furnishes := ShowsTree.makeDirectories made
    cases done with
    | ok =>
        cases settled
        exact furnishes
    | error fault =>
        cases settled
        exact furnishes

theorem putsInPlace_replaceWith
    {path : Path}
    {text : String}
    {outcome : Except Failure EmitStatus}
    (writes : runOn state (writeChanged.replaceWith path text) = (outcome, after)) :
    EndsIn
      (fun _ => ∃ location, PutsInPlace path text location (tree state) (tree after))
      (fun _ => (tree state).Furnishes (tree after))
      outcome := by
  obtain ⟨done, between, replaced, settled⟩ := runOn_lift_bind writes
  have puts := putsInPlace_replaceFile replaced
  cases done with
  | ok =>
      cases settled
      exact puts
  | error fault =>
      cases settled
      exact puts

/-- A text that is written unless it is there already is in place afterwards, or everything
stands as before. -/
theorem putsInPlace_writeChanged
    {path : Path}
    {text : String}
    {outcome : Except Failure EmitStatus}
    (writes : runOn state (writeChanged path text) = (outcome, after)) :
    EndsIn
      (fun _ => ∃ location, PutsInPlace path text location (tree state) (tree after))
      (fun _ => (tree state).Furnishes (tree after))
      outcome := by
  obtain ⟨held, between, read, settled⟩ := runOn_lift_bind writes
  obtain ⟨unchanged, isText⟩ := ShowsTree.readText read
  rw [← unchanged]
  cases held with
  | error fault => exact putsInPlace_replaceWith settled
  | ok old =>
      simp only at settled
      split at settled
      case isTrue same =>
        cases settled
        obtain ⟨location, located, isFile⟩ := FileTree.readText_eq_ok_iff.mp (isText old rfl)
        rw [FileTree.file?_eq_some_iff, same, ← unchanged] at isFile
        rw [← unchanged] at located
        refine ⟨location, rfl, located, isFile, ?_, fun _ _ => .inl rfl⟩
        rw [isFile]
        simp
      case isFalse => exact putsInPlace_replaceWith settled

/-- An emitted file is in place with the content of its task, or at most directories were made. -/
theorem putsInPlace_emit
    {root : Path}
    {task : ArtifactTask}
    {outcome : Except Failure EmittedFile}
    (emits : runOn state (task.emit root) = (outcome, after)) :
    EndsIn
      (fun emitted => emitted.path = task.target root
        ∧ ∃ location, PutsInPlace (task.target root) task.content location (tree state) (tree after))
      (fun _ => (tree state).Furnishes (tree after))
      outcome := by
  rcases runOn_bind_cases emits with ⟨_, furnished, makes, writesAndReturns⟩ | ⟨_, makes, rfl⟩
  · have furnishes := furnishes_makeDirectoryFor makes
    rcases runOn_bind_cases writesAndReturns with ⟨_, _, writes, returns⟩ | ⟨_, writes, rfl⟩
    · cases returns
      obtain ⟨location, puts⟩ := putsInPlace_writeChanged writes
      exact ⟨rfl, location, puts.ofFurnished furnishes⟩
    · have furnishesMore := putsInPlace_writeChanged writes
      exact furnishes.trans furnishesMore
  · exact furnishes_makeDirectoryFor makes

/-! ### One file after the other -/

/-- The files of all tasks are in place, and no other file differs from before. -/
structure AllInPlace
    (root : Path)
    (tasks : List ArtifactTask)
    (before after : FileTree) : Prop where
  keeps : before.KeepsDirectories after
  held : ∀ task ∈ tasks, after.readText (task.target root) = .ok task.content
  elsewhere : ∀ location, (∀ task ∈ tasks, after.locate (task.target root) ≠ .ok location) →
    after.file? location = before.file? location

theorem AllInPlace.ofFurnished
    {root : Path}
    {before after : FileTree}
    (furnishes : before.Furnishes after) :
    AllInPlace root [] before after where
  keeps := furnishes.keepsDirectories
  held := by simp
  elsewhere location _ := furnishes.file? location

/-- A file that is put in place first stays there when the files of other kinds are. -/
theorem AllInPlace.cons
    {root : Path}
    {task : ArtifactTask}
    {rest : List ArtifactTask}
    {location : Location}
    {before between after : FileTree}
    (differs : ∀ later ∈ rest, task.kind ≠ later.kind)
    (puts : PutsInPlace (task.target root) task.content location before between)
    (inPlace : AllInPlace root rest between after) :
    AllInPlace root (task :: rest) before after := by
  have located := inPlace.keeps.locate puts.located
  have untouched : after.file? location = between.file? location := by
    apply inPlace.elsewhere
    intro later member laterLocated
    exact differs later member (FileTree.locate_target_injective located laterLocated)
  refine ⟨puts.keepsDirectories.trans inPlace.keeps, ?_, ?_⟩
  · intro one member
    rcases List.mem_cons.mp member with isFirst | isLater
    · rw [isFirst, FileTree.readText_eq_ok_iff]
      refine ⟨location, located, ?_⟩
      rw [untouched, FileTree.file?_eq_some_iff]
      exact puts.held
    · exact inPlace.held one isLater
  · intro other noTarget
    have away : other ≠ location := by
      intro here
      rw [here] at noTarget
      exact noTarget task List.mem_cons_self located
    rw [inPlace.elsewhere other fun later member =>
      noTarget later (List.mem_cons_of_mem task member)]
    rw [FileTree.file?, FileTree.file?]
    rcases puts.elsewhere other away with same | ⟨missing, made⟩
    · rw [same]
    · rw [missing, made]

/-- Emitting tasks of different kinds one after the other puts the files of the first few in
place. These are all of them, or the emission ends in a failure about the next. -/
theorem exists_allInPlace_emit
    {root : Path}
    {tasks : List ArtifactTask}
    {outcome : Except Failure (List EmittedFile)}
    (apart : tasks.Pairwise fun task later => task.kind ≠ later.kind)
    (emits : runOn state (tasks.mapM (ArtifactTask.emit root)) = (outcome, after)) :
    ∃ done rest, tasks = done ++ rest
      ∧ AllInPlace root done (tree state) (tree after)
      ∧ EndsIn
          (fun emitted => rest = []
            ∧ emitted.map EmittedFile.path = tasks.map (ArtifactTask.target · root))
          (fun failure => ∃ task later, rest = task :: later
            ∧ failure.IsOfFile (task.target root))
          outcome := by
  induction tasks generalizing state outcome with
  | nil =>
      cases emits
      exact ⟨[], [], rfl, .ofFurnished (.refl _), rfl, rfl⟩
  | cons task rest inductionHypothesis =>
      rw [List.mapM_cons] at emits
      obtain ⟨differs, apartLater⟩ := List.pairwise_cons.mp apart
      rcases runOn_bind_cases emits with
        ⟨file, between, emitsFirst, emitsRest⟩ | ⟨failure, fails, rfl⟩
      · obtain ⟨samePath, location, puts⟩ := putsInPlace_emit emitsFirst
        rcases runOn_bind_cases emitsRest with
          ⟨files, final, emitsLater, returns⟩ | ⟨failure, failsLater, rfl⟩
        · cases returns
          obtain ⟨done, others, split, inPlace, noneLeft, samePaths⟩ :=
            inductionHypothesis apartLater emitsLater
          rw [noneLeft, List.append_nil] at split
          rw [← split] at inPlace
          refine ⟨task :: rest, [], (List.append_nil _).symm, inPlace.cons differs puts, rfl, ?_⟩
          rw [List.map_cons, List.map_cons, samePath, samePaths]
        · obtain ⟨done, others, split, inPlace, isFailure⟩ :=
            inductionHypothesis apartLater failsLater
          have differsDone : ∀ later ∈ done, task.kind ≠ later.kind := by
            intro later member
            exact differs later (by rw [split]; exact List.mem_append_left others member)
          exact ⟨task :: done, others, by rw [split, List.cons_append],
            inPlace.cons differsDone puts, isFailure⟩
      · have furnishes := putsInPlace_emit fails
        exact ⟨[], task :: rest, rfl, .ofFurnished furnishes, task, rest, rfl, isOfFile_emit fails⟩

end Shown

/-! ### On a tree -/

/-- A text is written where its path cannot be read yet and every step on the way succeeds. -/
theorem run_writeChanged_of_steps
    {tree drafted filled after : FileTree}
    {path temporary : Path}
    {text : String}
    {fault : Fault}
    (unread : tree.readText path = .error fault)
    (named : temporaryPath path.directory 0 = temporary)
    (creates : tree.createFile temporary = .ok drafted)
    (fills : drafted.replace temporary (.text text) = .ok filled)
    (renames : filled.rename temporary path = .ok after) :
    tree.run (writeChanged path text) = (.ok .written, after) := by
  have made : (createTemporary path.directory temporaryAttempts 0 : StateM FileTree _) tree
      = (.ok temporary, drafted) := by
    obtain ⟨attempts, isSucc⟩ : ∃ attempts, temporaryAttempts = attempts + 1 := ⟨65535, rfl⟩
    rw [isSucc]
    simp only [createTemporary, named, bind, StateT.bind, Storage.createFile, changing, creates]
    rfl
  have moved : (fillAndMove temporary path text : ExceptT Fault (StateM FileTree) _).run drafted
      = (.ok (), after) := by
    have filledHere : runOn drafted (ExceptT.mk (Storage.writeText temporary text))
        = (.ok (), filled) := by
      simp only [runOn, ExceptT.run, StateT.run, Id.run, ExceptT.mk, Storage.writeText, changing,
        fills]
    have renamedHere : runOn filled (ExceptT.mk (Storage.rename temporary path))
        = (.ok (), after) := by
      simp only [runOn, ExceptT.run, StateT.run, Id.run, ExceptT.mk, Storage.rename, changing,
        renames]
    have movedHere : runOn drafted (fillAndMove temporary path text) = (.ok (), after) := by
      rw [fillAndMove, runOn_bind, filledHere]
      exact renamedHere
    exact movedHere
  have replaced : (replaceFile path text : StateM FileTree _) tree = (.ok (), after) := by
    simp only [replaceFile, bind, StateT.bind, made, moved]
    rfl
  have read : (Storage.readText path : StateM FileTree _) tree = (.error fault, tree) := by
    rw [← unread]
    rfl
  rw [FileTree.run_eq_runOn, writeChanged, runOn_bind, runOn_lift, read]
  simp only
  rw [writeChanged.replaceWith, runOn_bind, runOn_lift, replaced]
  rfl

/-- A text is written to a path at which nothing stands, where a temporary file can be made
beside it. -/
theorem run_writeChanged_of_free
    {tree : FileTree}
    {path : Path}
    {origin location : Location}
    (text : String)
    (temporaryLocated : tree.locate (temporaryPath path.directory 0) = .ok origin)
    (free : tree.standing? origin = none)
    (located : tree.locate path = .ok location)
    (destinationFree : tree.standing? location = none)
    (apart : location ≠ origin) :
    tree.run (writeChanged path text) = (.ok .written, tree.put location (.file (.text text))) := by
  have unread : tree.readText path = .error .notFound := by
    simp only [FileTree.readText, FileTree.read, FileTree.lookup, located, bind, Except.bind,
      destinationFree]
    rfl
  have creates : tree.createFile (temporaryPath path.directory 0)
      = .ok (tree.put origin (.file (.text ""))) := by
    simp only [FileTree.createFile, FileTree.create, temporaryLocated, bind, Except.bind, free]
    rfl
  obtain ⟨_, draft⟩ := FileTree.hasDraft_createFile creates
  have atOrigin := draft.located
  rw [temporaryLocated] at atOrigin
  cases atOrigin
  have fills : (tree.put origin (.file (.text ""))).replace (temporaryPath path.directory 0)
      (.text text) = .ok (tree.put origin (.file (.text text))) := by
    simp only [FileTree.replace, draft.locatedNow, bind, Except.bind, draft.held]
    rw [FileTree.put_put_of_free free]
    rfl
  have filled := draft.replace fills
  have locatedNow := filled.keepsDirectories.locate located
  have renames : (tree.put origin (.file (.text text))).rename (temporaryPath path.directory 0) path
      = .ok (tree.put location (.file (.text text))) := by
    simp only [FileTree.rename, FileTree.replace, filled.locatedNow, locatedNow, bind, Except.bind,
      filled.held, filled.elsewhere location apart, destinationFree, pure, Except.pure, if_neg apart]
    rw [FileTree.erase_put_put_of_free free destinationFree apart]
  exact run_writeChanged_of_steps unread rfl creates fills renames

/-- Emitting tasks of different kinds one after the other leaves the file of each in place. -/
theorem allInPlace_emit
    {before after : FileTree}
    {root : Path}
    {tasks : List ArtifactTask}
    {emitted : List EmittedFile}
    (apart : tasks.Pairwise fun task later => task.kind ≠ later.kind)
    (emits : before.run (tasks.mapM (ArtifactTask.emit root)) = (.ok emitted, after)) :
    emitted.map EmittedFile.path = tasks.map (ArtifactTask.target · root)
      ∧ AllInPlace root tasks before after := by
  obtain ⟨done, rest, split, inPlace, noneLeft, samePaths⟩ := exists_allInPlace_emit apart emits
  rw [noneLeft, List.append_nil] at split
  rw [← split] at inPlace
  exact ⟨samePaths, inPlace⟩

end Scaffold
