import Scaffold.Package
import Scaffold.Proofs.Files.Path

/-!
Contract: the directory that a path lies in.

Owns:
- the moves of a path, which are its steps without the idle ones;
- the path without its last step, which moves one step less;
- the directory of an input file.

Does not own: what lies in a directory.
-/

namespace Scaffold

namespace Path

/-! ### Moves -/

/-- The steps of a text between slashes, idle ones apart. -/
def movesIn (text : List Char) : List Step :=
  ((Text.splitAtAll (· == '/') text).map stepOf).filter (· != .stay)

/-- The steps of a path, idle ones apart. -/
def moves (path : Path) : List Step :=
  path.steps.filter (· != .stay)

theorem moves_eq (path : Path) :
    path.moves = (if path.isAbsolute then [Step.root] else []) ++ movesIn path.text.toList := by
  rw [moves, steps, List.filter_append, movesIn]
  cases path.isAbsolute <;> rfl

theorem movesIn_append_cons (front rest : List Char) :
    movesIn (front ++ '/' :: rest) = movesIn front ++ movesIn rest := by
  rw [movesIn, Text.splitAtAll_append_cons (· == '/') front rest '/' rfl, List.map_append,
    List.filter_append]
  rfl

theorem movesIn_cons (rest : List Char) : movesIn ('/' :: rest) = movesIn rest :=
  movesIn_append_cons [] rest

/-- A text without slashes, as it stands between two of them. -/
def IsPiece (piece : List Char) : Prop :=
  ∀ char ∈ piece, (char == '/') = false

theorem isPiece_of_mem_pieces
    (path : Path)
    {piece : List Char}
    (member : piece ∈ path.pieces) :
    IsPiece piece := by
  obtain ⟨_, _, _, _, whole, _⟩ := Text.mem_splitAtAll_iff.mp member
  exact whole

theorem intercalate_splitAtAll (text : List Char) :
    List.intercalate ['/'] (Text.splitAtAll (· == '/') text) = text := by
  induction text with
  | nil => rfl
  | cons char rest inductionHypothesis =>
      rw [Text.splitAtAll]
      cases pieces : Text.splitAtAll (· == '/') rest with
      | nil => exact absurd pieces (Text.splitAtAll_ne_nil _ _)
      | cons piece more =>
          rw [pieces] at inductionHypothesis
          split
          case isTrue isSlash =>
            rw [List.intercalate_cons_cons, inductionHypothesis, List.nil_append,
              List.singleton_append, eq_of_beq isSlash]
          case isFalse =>
            rw [← inductionHypothesis]
            cases more <;> simp

/-- The front of the pieces is spelled in front. -/
theorem intercalate_isPrefix_append (front rest : List (List Char)) :
    List.intercalate ['/'] front <+: List.intercalate ['/'] (front ++ rest) := by
  induction front with
  | nil => exact List.nil_prefix
  | cons first front inductionHypothesis =>
      cases front with
      | nil =>
          cases rest with
          | nil => exact List.prefix_refl _
          | cons second rest => simp
      | cons second front =>
          rw [List.cons_append, List.cons_append, List.intercalate_cons_cons,
            List.intercalate_cons_cons]
          exact (List.prefix_append_right_inj _).mpr inductionHypothesis

theorem movesIn_intercalate
    {pieces : List (List Char)}
    (arePieces : ∀ piece ∈ pieces, IsPiece piece) :
    movesIn (List.intercalate ['/'] pieces) = (pieces.map stepOf).filter (· != .stay) := by
  induction pieces with
  | nil => rfl
  | cons first more inductionHypothesis =>
      obtain ⟨isPiece, arePieces⟩ := List.forall_mem_cons.mp arePieces
      have ofFirst : movesIn first = [stepOf first].filter (· != .stay) := by
        rw [movesIn, Text.splitAtAll_of_forall_not isPiece, List.map_singleton]
      cases more with
      | nil => simpa using ofFirst
      | cons second more =>
          rw [List.intercalate_cons_cons, List.append_assoc, List.singleton_append,
            movesIn_append_cons, ofFirst, inductionHypothesis arePieces, ← List.filter_append,
            List.singleton_append, ← List.map_cons]

/-! ### The lead of a path -/

/-- A lead can stand in front of a text: it is nothing, the root, or the current directory with
nothing or a slash behind it. -/
inductive LeadsTo (text : List Char) : List Char → Prop where
  | nothing (noSlash : ∀ char ∈ text.head?, char ≠ '/') : LeadsTo text []
  | root : LeadsTo text ['/']
  | current (behind : ∀ char ∈ text.head?, char = '/') : LeadsTo text ['.']

/-- The text of a path behind its lead is spelled by its pieces. -/
theorem text_eq_lead_append (path : Path) :
    path.text.toList = path.lead ++ List.intercalate ['/'] path.pieces
      ∧ LeadsTo (List.intercalate ['/'] path.pieces) path.lead := by
  rw [pieces, intercalate_splitAtAll, lead]
  split
  case h_1 rest spelled => exact ⟨by simp [spelled], .root⟩
  case h_2 spelled => exact ⟨by simp [spelled], .current (by simp [spelled])⟩
  case h_3 rest spelled => exact ⟨by simp [spelled], .current (by simp [spelled])⟩
  case h_4 noSlash _ _ =>
    refine ⟨rfl, .nothing ?_⟩
    intro char isFirst isSlash
    obtain ⟨rest, spelled⟩ := List.head?_eq_some_iff.mp isFirst
    exact noSlash rest (by rw [← isSlash]; exact spelled)

/-- A lead also stands in front of the start of a text that it stands in front of. -/
theorem LeadsTo.of_isPrefix
    {start text lead : List Char}
    (leads : LeadsTo text lead)
    (isPrefix : start <+: text) :
    LeadsTo start lead := by
  have sameHead : ∀ char ∈ start.head?, char ∈ text.head? := by
    obtain ⟨rest, rfl⟩ := isPrefix
    intro char isFirst
    simp [List.head?_append, Option.mem_def.mp isFirst]
  cases leads with
  | nothing noSlash => exact .nothing fun char isFirst => noSlash char (sameHead char isFirst)
  | root => exact .root
  | current behind => exact .current fun char isFirst => behind char (sameHead char isFirst)

/-- Only a lead from the root moves. -/
theorem LeadsTo.moves_eq
    {text lead : List Char}
    (leads : LeadsTo text lead) :
    moves ⟨String.ofList (lead ++ text)⟩
      = (if lead = ['/'] then [Step.root] else []) ++ movesIn text := by
  rw [Path.moves_eq, isAbsolute_eq, String.toList_ofList]
  cases leads with
  | nothing noSlash =>
      cases text with
      | nil => rfl
      | cons first rest =>
          have notSlash : (first == '/') = false := beq_false_of_ne (noSlash first rfl)
          simp [notSlash]
  | root => simp [movesIn_cons]
  | current behind =>
      cases text with
      | nil => rfl
      | cons first rest =>
          obtain rfl := behind first rfl
          have ofCurrent : movesIn ['.'] = [] := by decide
          simp only [List.singleton_append, List.head?_cons]
          rw [show '.' :: '/' :: rest = ['.'] ++ '/' :: rest from rfl, movesIn_append_cons, ofCurrent,
            movesIn_cons]
          rfl

/-! ### The path without its last step -/

theorem stepOf_of_isIdlePiece {piece : List Char} (idle : isIdlePiece piece = true) :
    stepOf piece = .stay := by
  rw [stepOf, if_pos idle]

theorem stepOf_ne_stay {piece : List Char} (busy : isIdlePiece piece = false) :
    stepOf piece ≠ .stay := by
  rw [stepOf, busy, if_neg Bool.false_ne_true]
  split <;> exact Step.noConfusion

theorem filter_stepOf_of_idle
    {pieces : List (List Char)}
    (idle : ∀ piece ∈ pieces, isIdlePiece piece = true) :
    (pieces.map stepOf).filter (· != .stay) = [] := by
  rw [List.filter_eq_nil_iff]
  intro step member
  obtain ⟨piece, inPieces, rfl⟩ := List.mem_map.mp member
  rw [stepOf_of_isIdlePiece (idle piece inPieces)]
  decide

/-- What is taken away with the idle pieces at the end is idle. -/
theorem reverse_eq_append_idle (reversed : List (List Char)) :
    ∃ idle, reversed.reverse = (reversed.dropWhile isIdlePiece).reverse ++ idle
      ∧ ∀ piece ∈ idle, isIdlePiece piece = true := by
  refine ⟨(reversed.takeWhile isIdlePiece).reverse, ?_, ?_⟩
  · rw [← List.reverse_append, List.takeWhile_append_dropWhile]
  · intro piece member
    exact List.all_eq_true.mp List.all_takeWhile piece (List.mem_reverse.mp member)

/-- The moves of a path are those of its pieces. -/
theorem moves_eq_filter_pieces (path : Path) :
    path.moves
      = (if path.lead = ['/'] then [Step.root] else [])
        ++ (path.pieces.map stepOf).filter (· != .stay) := by
  obtain ⟨spelled, leads⟩ := path.text_eq_lead_append
  have moved := leads.moves_eq
  rw [← spelled, String.ofList_toList] at moved
  rw [moved, movesIn_intercalate fun _ => isPiece_of_mem_pieces path]

/-- A path of idle pieces moves to the root at most. -/
theorem moves_of_activeReversed_eq_nil
    {path : Path}
    (allIdle : path.activeReversed = []) :
    path.moves = if path.lead = ['/'] then [Step.root] else [] := by
  obtain ⟨idle, spelled, areIdle⟩ := reverse_eq_append_idle path.pieces.reverse
  rw [show path.pieces.reverse.dropWhile isIdlePiece = [] from allIdle, List.reverse_reverse,
    List.reverse_nil, List.nil_append] at spelled
  rw [moves_eq_filter_pieces, spelled, filter_stepOf_of_idle areIdle, List.append_nil]

/-- A path begins with what is rebuilt from the front of its pieces. The other pieces make the moves
that are left. -/
theorem rebuild_front
    {path : Path}
    {front rest : List (List Char)}
    (parted : path.pieces = front ++ rest) :
    (path.rebuild front.reverse).text.toList <+: path.text.toList
      ∧ path.moves
        = (path.rebuild front.reverse).moves ++ (rest.map stepOf).filter (· != .stay) := by
  obtain ⟨whole, leads⟩ := path.text_eq_lead_append
  have isPrefix : List.intercalate ['/'] front <+: List.intercalate ['/'] path.pieces := by
    rw [parted]
    exact intercalate_isPrefix_append front rest
  have frontPieces : ∀ piece ∈ front, IsPiece piece := by
    intro piece member
    refine isPiece_of_mem_pieces path ?_
    rw [parted]
    exact List.mem_append_left _ member
  have rebuilt : path.rebuild front.reverse
      = ⟨String.ofList (path.lead ++ List.intercalate ['/'] front)⟩ := by
    rw [rebuild, List.reverse_reverse]
    rfl
  rw [rebuilt]
  constructor
  · rw [String.toList_ofList, whole]
    exact (List.prefix_append_right_inj path.lead).mpr isPrefix
  · rw [(leads.of_isPrefix isPrefix).moves_eq, movesIn_intercalate frontPieces,
      moves_eq_filter_pieces, parted, List.map_append, List.filter_append, List.append_assoc]

/-- The path without its last step is spelled in front of the path and lacks its last move. -/
theorem moves_of_activeReversed_eq_cons
    {path : Path}
    {last : List Char}
    {before : List (List Char)}
    (active : path.activeReversed = last :: before) :
    (path.rebuild (before.dropWhile isIdlePiece)).text.toList <+: path.text.toList
      ∧ path.moves = (path.rebuild (before.dropWhile isIdlePiece)).moves ++ [stepOf last] := by
  have dropped : path.pieces.reverse.dropWhile isIdlePiece = last :: before := active
  have busy : isIdlePiece last = false := by
    have ofHead := List.head?_dropWhile_not isIdlePiece path.pieces.reverse
    rwa [dropped] at ofHead
  -- Behind the rebuilt front stand idle pieces, the last one that moves, and idle ones again.
  obtain ⟨idle, spelled, areIdle⟩ := reverse_eq_append_idle path.pieces.reverse
  obtain ⟨passed, spelledBefore, passedIdle⟩ := reverse_eq_append_idle before
  rw [dropped, List.reverse_reverse, List.reverse_cons, spelledBefore, List.append_assoc,
    List.append_assoc, List.singleton_append] at spelled
  have lastMoves : (stepOf last != .stay) = true := bne_iff_ne.mpr (stepOf_ne_stay busy)
  have behindFront : ((passed ++ last :: idle).map stepOf).filter (· != .stay) = [stepOf last] := by
    rw [List.map_append, List.filter_append, filter_stepOf_of_idle passedIdle, List.map_cons,
      List.nil_append, List.filter_cons, if_pos lastMoves, filter_stepOf_of_idle areIdle]
  have parted := rebuild_front spelled
  rwa [behindFront, List.reverse_reverse] at parted

end Path

/-! ### The directory of a file -/

/-- The directory that a file is taken to lie in. -/
inductive IsDirectoryOf (input : Path) : Path → Prop where
  /-- The path of the file spells a directory and makes one move more. -/
  | above {directory : Path} {last : Path.Step}
      (isParent : input.parent? = some directory)
      (nonempty : directory.text ≠ "")
      (spelled : directory.text.toList <+: input.text.toList)
      (further : input.moves = directory.moves ++ [last]) :
      IsDirectoryOf input directory
  /-- The path of the file has no directory in it and makes one move at most. -/
  | here
      (bare : ∀ parent ∈ input.parent?, parent.text = "")
      (short : input.moves.length ≤ 1) :
      IsDirectoryOf input ⟨"."⟩

theorem IsDirectoryOf.text_ne_empty
    {directory input : Path}
    (isDirectory : IsDirectoryOf input directory) :
    directory.text ≠ "" := by
  cases isDirectory with
  | above _ nonempty => exact nonempty
  | here => decide

namespace Package

theorem directoryFor_of_bare
    {input : Path}
    (bare : ∀ parent ∈ input.parent?, parent.text = "") :
    directoryFor input = ⟨"."⟩ := by
  rw [directoryFor]
  split
  case h_1 parent isParent =>
    have isEmpty : parent.isEmpty = true := String.isEmpty_iff.mpr (bare parent isParent)
    rw [if_pos isEmpty]
  case h_2 => rfl

/-- The default output root of an input file is the directory that the file lies in. -/
theorem isDirectoryOf_directoryFor (input : Path) : IsDirectoryOf input (directoryFor input) := by
  cases active : input.activeReversed with
  | nil =>
      have bare : ∀ parent ∈ input.parent?, parent.text = "" := by
        intro parent isParent
        rw [Path.parent?, active] at isParent
        simp only [Option.mem_def, Option.ite_none_right_eq_some, Option.some.injEq] at isParent
        rw [← isParent.2]
      rw [directoryFor_of_bare bare]
      refine .here bare ?_
      rw [Path.moves_of_activeReversed_eq_nil active]
      split <;> decide
  | cons last before =>
      obtain ⟨spelled, further⟩ := Path.moves_of_activeReversed_eq_cons active
      have isParent : input.parent? = some (input.rebuild (before.dropWhile Path.isIdlePiece)) := by
        rw [Path.parent?, active]
      generalize input.rebuild (before.dropWhile Path.isIdlePiece) = directory at *
      by_cases noText : directory.text = ""
      · have bare : ∀ parent ∈ input.parent?, parent.text = "" := by
          rw [isParent]
          rintro _ ⟨⟩
          exact noText
        have isNothing : directory = ⟨""⟩ := congrArg Path.mk noText
        have noMoves : Path.moves ⟨""⟩ = [] := by decide
        rw [directoryFor_of_bare bare]
        refine .here bare ?_
        rw [further, isNothing, noMoves]
        exact Nat.le_refl 1
      · have notEmpty : directory.isEmpty = false :=
          Bool.eq_false_iff.mpr fun isEmpty => noText (String.isEmpty_iff.mp isEmpty)
        have same : directoryFor input = directory := by
          rw [directoryFor, isParent]
          dsimp only
          rw [notEmpty, if_neg Bool.false_ne_true]
        rw [same]
        exact .above isParent noText spelled further

-- Idle pieces are lost at the end of the directory and stay as they are in front of it.
example : directoryFor ⟨"a//b/./c"⟩ = ⟨"a//b"⟩ := by
  decide

end Package

end Scaffold
