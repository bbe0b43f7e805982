import Scaffold.Proofs.Files.Draft

/-!
Contract: places where files are kept whose content is a tree.

Owns:
- what each operation may do to the tree that a state shows;
- the tree itself as such a place, and a volume whose operations can be refused.

Does not own: the actions that are made of these operations.
-/

namespace Scaffold

/-! ### Operations on a tree that is shown -/

/-- An operation was done on a tree, or it failed and left the tree as it was. -/
def DoneOrLeft
    (operation : FileTree → Except Fault FileTree)
    (before after : FileTree) :
    Except Fault Unit → Prop
  | .ok () => operation before = .ok after
  | .error _ => after = before

/-- Every state shows a tree. An operation does on the tree what it is for, or it fails; a
failure leaves the tree as it was, except that directories may have been made and a file that
was to be written may hold anything. Removing a file is not refused. -/
class ShowsTree (σ : Type) [Storage (StateM σ)] where
  tree : σ → FileTree
  readText : ∀ {state after : σ} {path : Path} {outcome : Except Fault String},
    (Storage.readText path : StateM σ _) state = (outcome, after) →
    tree after = tree state
      ∧ ∀ text, outcome = .ok text → (tree state).readText path = .ok text
  makeDirectories : ∀ {state after : σ} {path : Path} {outcome : Except Fault Unit},
    (Storage.makeDirectories path : StateM σ _) state = (outcome, after) →
    (tree state).Furnishes (tree after)
  createFile : ∀ {state after : σ} {path : Path} {outcome : Except Fault Unit},
    (Storage.createFile path : StateM σ _) state = (outcome, after) →
    DoneOrLeft (·.createFile path) (tree state) (tree after) outcome
  writeText : ∀ {state after : σ} {path : Path} {text : String} {outcome : Except Fault Unit},
    (Storage.writeText path text : StateM σ _) state = (outcome, after) →
    DoneOrLeft (·.replace path (.text text)) (tree state) (tree after) outcome
      ∨ ∃ fault content, outcome = .error fault
          ∧ (tree state).replace path content = .ok (tree after)
  sync : ∀ {state after : σ} {path : Path} {outcome : Except Fault Unit},
    (Storage.sync path : StateM σ _) state = (outcome, after) → tree after = tree state
  permit : ∀ {state after : σ} {path : Path} {outcome : Except Fault Unit},
    (Storage.permit path : StateM σ _) state = (outcome, after) → tree after = tree state
  rename : ∀ {state after : σ} {source destination : Path} {outcome : Except Fault Unit},
    (Storage.rename source destination : StateM σ _) state = (outcome, after) →
    DoneOrLeft (·.rename source destination) (tree state) (tree after) outcome
  discard : ∀ {state after : σ} {path : Path},
    (Storage.discard path : StateM σ _) state = ((), after) →
    tree after = (tree state).discard path

theorem doneOrLeft_changing
    {operation : FileTree → Except Fault FileTree}
    {before after : FileTree}
    {outcome : Except Fault Unit}
    (changed : changing operation before = (outcome, after)) :
    DoneOrLeft operation before after outcome := by
  rw [changing] at changed
  split at changed
  case h_1 next done =>
    cases changed
    exact done
  case h_2 =>
    cases changed
    rfl

/-- A tree shows itself. -/
instance : ShowsTree FileTree where
  tree := id
  readText read := by
    cases read
    exact ⟨rfl, fun _ isText => isText⟩
  makeDirectories {state after path outcome} makes := by
    have furnishes := state.furnishes_makeDirectories path
    have made : state.makeDirectories path = (outcome, after) := makes
    rw [made] at furnishes
    exact furnishes
  createFile creates := doneOrLeft_changing creates
  writeText writes := .inl (doneOrLeft_changing writes)
  sync synced := by
    cases synced
    rfl
  permit permitted := by
    cases permitted
    rfl
  rename renames := doneOrLeft_changing renames
  discard discards := by
    cases discards
    rfl

/-! ### Operations that can be refused -/

/-- Why an operation is refused, and how far it gets before that. -/
structure Refusal where
  fault : Fault
  progress : Nat
  deriving DecidableEq, Repr

/-- A tree on which operations can be refused, whatever the reason. The list says of each
operation that is yet to come whether it is; beyond its end none is. -/
structure Volume where
  tree : FileTree
  refusals : List (Option Refusal)
  deriving DecidableEq, Repr

namespace Volume

/-- Apply an operation, or what is left of it when it is refused. -/
def attempt
    {α : Type}
    (served : FileTree → α × FileTree)
    (refused : Refusal → FileTree → α × FileTree) :
    StateM Volume α :=
  fun volume =>
    match volume.refusals with
    | [] =>
        match served volume.tree with
        | (value, tree) => (value, ⟨tree, []⟩)
    | none :: later =>
        match served volume.tree with
        | (value, tree) => (value, ⟨tree, later⟩)
    | some refusal :: later =>
        match refused refusal volume.tree with
        | (value, tree) => (value, ⟨tree, later⟩)

/-- A refused operation that leaves the tree as it is. -/
def refuse {α : Type} (refusal : Refusal) (tree : FileTree) : Except Fault α × FileTree :=
  (.error refusal.fault, tree)

/-- A refused making of directories: those around the first few of the row are made. -/
def refuseDirectories
    (path : Path)
    (refusal : Refusal)
    (tree : FileTree) :
    Except Fault Unit × FileTree :=
  (.error refusal.fault, (tree.makeFirst (path.ancestors.drop refusal.progress)).2)

/-- A refused writing: the file holds the first few bytes. -/
def refuseText
    (path : Path)
    (text : String)
    (refusal : Refusal)
    (tree : FileTree) :
    Except Fault Unit × FileTree :=
  match tree.replace path (.ofBytes (text.toUTF8.toList.take refusal.progress)) with
  | .ok torn => (.error refusal.fault, torn)
  | .error _ => (.error refusal.fault, tree)

instance : Storage (StateM Volume) where
  readText path := attempt (fun tree => (tree.readText path, tree)) refuse
  isFile path := attempt (fun tree => (tree.isFile path, tree)) fun _ tree => (false, tree)
  makeDirectories path := attempt (·.makeDirectories path) (refuseDirectories path)
  createFile path := attempt (changing (·.createFile path)) refuse
  writeText path text := attempt (changing (·.replace path (.text text))) (refuseText path text)
  sync _ := attempt (fun tree => (.ok (), tree)) refuse
  permit _ := attempt (fun tree => (.ok (), tree)) refuse
  rename source destination := attempt (changing (·.rename source destination)) refuse
  discard path := fun volume => ((), { volume with tree := volume.tree.discard path })

/-- What is attempted is served or refused, on the tree of the volume. -/
theorem attempt_cases
    {α : Type}
    {served : FileTree → α × FileTree}
    {refused : Refusal → FileTree → α × FileTree}
    {volume after : Volume}
    {value : α}
    (attempted : attempt served refused volume = (value, after)) :
    served volume.tree = (value, after.tree)
      ∨ ∃ refusal, refused refusal volume.tree = (value, after.tree) := by
  rw [attempt] at attempted
  split at attempted
  case h_1 =>
    cases attempted
    exact .inl rfl
  case h_2 =>
    cases attempted
    exact .inl rfl
  case h_3 refusal later _ =>
    cases attempted
    exact .inr ⟨refusal, rfl⟩

theorem doneOrLeft_attempt
    {operation : FileTree → Except Fault FileTree}
    {volume after : Volume}
    {outcome : Except Fault Unit}
    (attempted : attempt (changing operation) refuse volume = (outcome, after)) :
    DoneOrLeft operation volume.tree after.tree outcome := by
  rcases attempt_cases attempted with served | ⟨refusal, refused⟩
  · exact doneOrLeft_changing served
  · obtain ⟨rfl, left⟩ := Prod.mk.inj refused
    exact left.symm

theorem tree_attempt_idle
    {volume after : Volume}
    {outcome : Except Fault Unit}
    (attempted : attempt (fun tree => (.ok (), tree)) refuse volume = (outcome, after)) :
    after.tree = volume.tree := by
  rcases attempt_cases attempted with served | ⟨refusal, refused⟩
  · exact (Prod.mk.inj served).2.symm
  · exact (Prod.mk.inj refused).2.symm

/-- A volume shows its tree. -/
instance : ShowsTree Volume where
  tree := Volume.tree
  readText attempted := by
    rcases attempt_cases attempted with served | ⟨refusal, refused⟩
    · obtain ⟨isText, left⟩ := Prod.mk.inj served
      exact ⟨left.symm, fun text expected => isText.trans expected⟩
    · obtain ⟨rfl, left⟩ := Prod.mk.inj refused
      exact ⟨left.symm, fun text expected => by cases expected⟩
  makeDirectories {state after path outcome} attempted := by
    rcases attempt_cases attempted with served | ⟨refusal, refused⟩
    · have furnishes := state.tree.furnishes_makeDirectories path
      rw [served] at furnishes
      exact furnishes
    · have furnishes := state.tree.furnishes_makeFirst (path.ancestors.drop refusal.progress)
      rw [(Prod.mk.inj refused).2] at furnishes
      exact furnishes
  createFile attempted := doneOrLeft_attempt attempted
  writeText {state after path text outcome} attempted := by
    rcases attempt_cases attempted with served | ⟨refusal, refused⟩
    · exact .inl (doneOrLeft_changing served)
    · rw [refuseText] at refused
      split at refused
      case h_1 torn tears =>
        obtain ⟨rfl, left⟩ := Prod.mk.inj refused
        exact .inr ⟨refusal.fault, _, rfl, tears.trans (congrArg _ left)⟩
      case h_2 =>
        obtain ⟨rfl, left⟩ := Prod.mk.inj refused
        exact .inl left.symm
  sync attempted := tree_attempt_idle attempted
  permit attempted := tree_attempt_idle attempted
  rename attempted := doneOrLeft_attempt attempted
  discard discards := by
    cases discards
    rfl

end Volume

end Scaffold
