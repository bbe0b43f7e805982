import Scaffold.Package
import Scaffold.Proofs.Text.Ends
import Scaffold.Proofs.Text.Spellings

/-!
Contract: where the package of an input file lies in the module tree.

Owns:
- the module path that a package's name is added to, and the path that comes out;
- a path that is resolved once more, which stays as it is.

Does not own: the name that a file's location gives.
-/

namespace Scaffold.Package

/-- The part of a module path that a name is added to: no blanks around it, no colon pairs at its end. -/
def base (module : String) : String :=
  Text.trimEnding "::" (Text.trim module)

/-- The path of the package with a given name below a module: the module's own one if its last piece is
the name already. -/
def pathBelow (base name : String) : String :=
  if base.isEmpty then name
  else if Text.lastPiece "::" base == name then base
  else base ++ "::" ++ name

theorem resolve_eq (module : String) (input : Path) :
    resolve module input = ⟨pathBelow (base module) (nameFor input), nameFor input⟩ :=
  rfl

/-- What a name is added to begins with no blank and does not end in a colon pair. -/
structure IsBase (base : String) : Prop where
  first : ∀ char ∈ base.toList.head?, Text.isBlank char = false
  unpaired : ¬"::".toList <:+ base.toList

theorem isBase_base (module : String) : IsBase (base module) := by
  obtain ⟨⟨behind, split⟩, unpaired⟩ :=
    Text.trimEnding_spec (show "::" ≠ "" by decide) (Text.trim module)
  refine ⟨fun char isFirst => ?_, unpaired⟩
  have trimmed := Text.isTrimmed_trimChars module.toList
  rw [← Text.toList_trim, ← split] at trimmed
  refine trimmed.first char ?_
  rw [List.head?_append, show (Text.trimEnding "::" (Text.trim module)).toList.head? = some char from isFirst]
  rfl

/-- A name that a package can have: no blank and no colon stands in it. It may be empty. -/
structure IsName (name : String) : Prop where
  noBlank : ∀ char ∈ name.toList, Text.isBlank char = false
  noColon : ':' ∉ name.toList

theorem isName_nameFor (input : Path) : IsName (nameFor input) where
  noBlank _ member := Text.not_isBlank_of_mem_snakeCase member
  noColon := Text.mark_not_mem_snakeCase (by decide) (by decide) _

variable {base name : String}

theorem IsName.apart (isName : IsName name) : ∀ char ∈ "::".toList, char ∉ name.toList := by
  simpa using isName.noColon

/-- A path ends in the name of its package. -/
theorem isLastPiece_pathBelow
    (base : String)
    (isName : IsName name) :
    Text.IsLastPiece "::" (pathBelow base name) name := by
  rw [pathBelow]
  split
  case isTrue => exact Text.isLastPiece_self (by decide) isName.apart
  case isFalse =>
    split
    case isTrue found => exact (Text.lastPiece_eq_iff (by decide)).mp (eq_of_beq found)
    case isFalse => exact Text.isLastPiece_append (by decide) isName.apart base

/-- A path begins with no blank. -/
theorem first_pathBelow
    (isBase : IsBase base)
    (isName : IsName name) :
    ∀ char ∈ (pathBelow base name).toList.head?, Text.isBlank char = false := by
  intro char isFirst
  rw [pathBelow] at isFirst
  split at isFirst
  case isTrue => exact isName.noBlank char (List.mem_of_mem_head? isFirst)
  case isFalse nonempty =>
    split at isFirst
    case isTrue => exact isBase.first char isFirst
    case isFalse =>
      obtain ⟨first, rest, begins⟩ := List.exists_cons_of_ne_nil
        (show base.toList ≠ [] by simpa using nonempty)
      refine isBase.first char ?_
      rw [begins]
      simpa [String.toList_append, begins] using isFirst

/-- A path that ends in a name is what is left of it. -/
theorem base_pathBelow_of_ne
    (isBase : IsBase base)
    (isName : IsName name)
    (named : name ≠ "") :
    Package.base (pathBelow base name) = pathBelow base name := by
  obtain ⟨front, split⟩ := (isLastPiece_pathBelow base isName).isSuffix
  obtain ⟨before, last, ending⟩ := (List.eq_nil_or_concat name.toList).resolve_left (by simpa using named)
  have isLast : last ∈ name.toList := by simp [ending]
  have pathEnding : (pathBelow base name).toList = (front ++ before) ++ [last] := by
    rw [← split, ending, List.concat_eq_append, List.append_assoc]
  have trimmed : Text.IsTrimmed (pathBelow base name).toList := by
    refine ⟨first_pathBelow isBase isName, fun char isEnd => ?_⟩
    rw [pathEnding, List.getLast?_concat] at isEnd
    cases isEnd
    exact isName.noBlank last isLast
  have unpaired : ¬"::".toList <:+ (pathBelow base name).toList := by
    rintro ⟨earlier, paired⟩
    have same : earlier ++ [':'] ++ [':'] = (front ++ before) ++ [last] := by
      rw [← pathEnding, ← paired, List.append_assoc]
      rfl
    have isColon : ':' = last := by simpa using (List.append_inj' same rfl).2
    exact isName.noColon (isColon ▸ isLast)
  rw [Package.base, Text.trim_of_isTrimmed trimmed, Text.trimEnding_of_not_isSuffix unpaired]

/-- A name without characters leaves a colon pair at the end of the path. -/
theorem pathBelow_empty
    (isBase : IsBase base)
    (filled : base ≠ "") :
    pathBelow base "" = base ++ "::" := by
  have another : Text.lastPiece "::" base ≠ "" := by
    intro found
    rcases (Text.lastPiece_eq_iff (by decide)).mp found with ⟨-, isEmpty⟩ | ⟨front, split, -⟩
    · exact filled isEmpty.symm
    · exact isBase.unpaired ⟨front.toList, by rw [split]; simp⟩
  rw [pathBelow, if_neg (by simpa using filled), if_neg (by simpa using another), String.append_empty]

/-- A path that ends in a colon pair loses it again. -/
theorem base_pathBelow_empty (isBase : IsBase base) :
    Package.base (pathBelow base "") = base := by
  by_cases filled : base = ""
  · rw [filled]
    decide
  · have trimmed : Text.IsTrimmed (pathBelow base "").toList := by
      refine ⟨first_pathBelow isBase ⟨nofun, nofun⟩, fun char isEnd => ?_⟩
      have isColon : ':' = char := by
        simpa [pathBelow_empty isBase filled, String.toList_append] using isEnd
      exact isColon ▸ by decide
    rw [Package.base, Text.trim_of_isTrimmed trimmed, pathBelow_empty isBase filled,
      Text.trimEnding_append (by decide) isBase.unpaired]

/-- A name that was added to a path is not added to it again. -/
theorem pathBelow_again
    (isBase : IsBase base)
    (isName : IsName name) :
    pathBelow (Package.base (pathBelow base name)) name = pathBelow base name := by
  by_cases named : name = ""
  · rw [named, base_pathBelow_empty isBase]
  · have isLast := isLastPiece_pathBelow base isName
    have filled : pathBelow base name ≠ "" := by
      intro isEmpty
      obtain ⟨front, split⟩ := isLast.isSuffix
      rw [isEmpty] at split
      exact named (by simpa using (List.append_eq_nil_iff.mp split).2)
    rw [base_pathBelow_of_ne isBase isName named, pathBelow, if_neg (by simpa using filled),
      if_pos (beq_iff_eq.mpr ((Text.lastPiece_eq_iff (by decide)).mpr isLast))]

/-- The package of an input file below any module path: the last piece of its path is its name, its name
comes from the input file alone, and its path as the module path gives the same package again. -/
theorem resolve_stable (module : String) (input : Path) :
    Text.IsLastPiece "::" (resolve module input).path (resolve module input).name
      ∧ (∀ other, (resolve other input).name = (resolve module input).name)
      ∧ resolve (resolve module input).path input = resolve module input := by
  have isName := isName_nameFor input
  simp only [resolve_eq, pathBelow_again (isBase_base module) isName, implies_true, and_true]
  exact isLastPiece_pathBelow _ isName

end Scaffold.Package
