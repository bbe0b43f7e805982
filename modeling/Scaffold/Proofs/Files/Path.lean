import Scaffold.Artifact.Kind
import Scaffold.Proofs.Text.Pieces

/-!
Contract: the steps of joined paths.

Owns:
- the steps of a path with another one behind it;
- the names that the path of a kind goes down.

Does not own: the directories that the steps lead through.
-/

namespace Scaffold

/-! ### Joined paths -/

namespace Path

theorem isAbsolute_eq (path : Path) :
    path.isAbsolute = (path.text.toList.head? == some '/') := by
  rw [isAbsolute, lead]
  split
  case h_1 rest spelled => simp [spelled]
  case h_2 spelled => simp [spelled]
  case h_3 rest spelled => simp [spelled]
  case h_4 noSlash _ _ =>
    cases spelled : path.text.toList with
    | nil => rfl
    | cons first rest =>
        have notSlash : first ≠ '/' := by
          intro isSlash
          exact noSlash rest (by rw [spelled, isSlash])
        simp [notSlash]

/-- Is nothing put between the path and another one that is joined to it? -/
def isOpen (path : Path) : Bool :=
  path.text.toList.getLast?.all (· == '/')

theorem isOpen_iff {path : Path} :
    path.isOpen = true
      ↔ path.text.toList = [] ∨ ∃ before, path.text.toList = before ++ ['/'] := by
  rw [isOpen]
  rcases List.eq_nil_or_concat path.text.toList with isEmpty | ⟨before, last, spelled⟩
  · simp [isEmpty]
  · rw [List.concat_eq_append] at spelled
    constructor
    · intro endsInSlash
      have isSlash : last = '/' := by simpa [spelled] using endsInSlash
      exact .inr ⟨before, by rw [spelled, isSlash]⟩
    · rintro (isEmpty | ⟨others, spelledOut⟩)
      · simp [isEmpty]
      · simp [spelledOut]

/-- The steps of a path in front of those of another one that is joined to it. -/
def front (path : Path) : List Step :=
  (if path.isAbsolute then [Step.root] else []) ++
    (if path.isOpen then (Text.splitAtAll (· == '/') path.text.toList).dropLast
      else Text.splitAtAll (· == '/') path.text.toList).map stepOf

theorem steps_of_relative (path : Path) (relative : path.isAbsolute = false) :
    path.steps = (Text.splitAtAll (· == '/') path.text.toList).map stepOf := by
  simp [steps, relative]

/-- A relative path behind another one adds its steps to those in front. -/
theorem steps_join (path rest : Path) (relative : rest.isAbsolute = false) :
    (path.join rest).steps = path.front ++ rest.steps := by
  rw [steps_of_relative rest relative, join, relative, if_neg Bool.false_ne_true]
  split
  case h_1 isEmpty =>
    have spelled : path.text.toList = [] := List.reverse_eq_nil_iff.mp isEmpty
    have isOpen : path.isOpen = true := isOpen_iff.mpr (.inl spelled)
    have notAbsolute : path.isAbsolute = false := by
      rw [isAbsolute_eq, spelled]
      rfl
    simp [steps_of_relative rest relative, front, notAbsolute, isOpen, spelled, Text.splitAtAll]
  case h_2 before endsInSlash =>
    have spelled : path.text.toList = before.reverse ++ ['/'] := by
      rw [← List.reverse_reverse path.text.toList, endsInSlash, List.reverse_cons]
    have isOpen : path.isOpen = true := isOpen_iff.mpr (.inr ⟨before.reverse, spelled⟩)
    have sameStart : Path.isAbsolute ⟨path.text ++ rest.text⟩ = path.isAbsolute := by
      rw [isAbsolute_eq, isAbsolute_eq, String.toList_append, spelled]
      cases before.reverse <;> rfl
    have frontPieces : (Text.splitAtAll (· == '/') path.text.toList).dropLast
        = Text.splitAtAll (· == '/') before.reverse := by
      rw [spelled, Text.splitAtAll_append_cons _ _ _ _ rfl]
      simp [Text.splitAtAll]
    rw [steps, front, sameStart, isOpen, if_pos rfl, frontPieces, String.toList_append, spelled,
      List.append_assoc, List.singleton_append, Text.splitAtAll_append_cons _ _ _ _ rfl,
      List.map_append, List.append_assoc]
  case h_3 notEmpty noSlash =>
    have notOpen : path.isOpen = false := by
      rw [← Bool.not_eq_true, isOpen_iff]
      rintro (isEmpty | ⟨before, spelled⟩)
      · exact notEmpty (by rw [isEmpty, List.reverse_nil])
      · exact noSlash before.reverse (by rw [spelled, List.reverse_concat])
    have sameStart : Path.isAbsolute ⟨path.text ++ "/" ++ rest.text⟩ = path.isAbsolute := by
      rw [isAbsolute_eq, isAbsolute_eq, String.toList_append, String.toList_append]
      cases spelled : path.text.toList with
      | nil => exact absurd (by rw [spelled, List.reverse_nil]) notEmpty
      | cons first more => rfl
    have cutAtSlash : (path.text ++ "/" ++ rest.text).toList
        = path.text.toList ++ '/' :: rest.text.toList := by
      simp
    rw [steps, front, sameStart, notOpen, if_neg Bool.false_ne_true, cutAtSlash,
      Text.splitAtAll_append_cons _ _ _ _ rfl, List.map_append, List.append_assoc]

end Path

/-! ### The files of the kinds -/

namespace ArtifactKind

/-- The names that the path of a kind goes down, below the output root. -/
def names (kind : ArtifactKind) : List String :=
  (Text.splitAtAll (· == '/') kind.relativePath.text.toList).map String.ofList

theorem relativePath_isAbsolute (kind : ArtifactKind) :
    kind.relativePath.isAbsolute = false := by
  cases kind <;> decide

theorem relativePath_steps (kind : ArtifactKind) :
    kind.relativePath.steps = kind.names.map Path.Step.down := by
  cases kind <;> decide

theorem names_injective {left right : ArtifactKind} (same : left.names = right.names) :
    left = right := by
  cases left <;> cases right <;> first | rfl | exact absurd same (by decide)

/-- The path of a kind's file goes on from where the output root leads. -/
theorem target_steps (root : Path) (kind : ArtifactKind) :
    (root.join kind.relativePath).steps = root.front ++ kind.names.map Path.Step.down := by
  rw [Path.steps_join root _ (relativePath_isAbsolute kind), relativePath_steps]

end ArtifactKind

end Scaffold
