import Scaffold.Proofs.Text.Compaction
import Scaffold.Proofs.Text.Ends
import Scaffold.Proofs.Text.Pieces

/-!
Contract: what compaction leaves of a text.

Owns:
- the loss of blanks and of nothing else;
- the words of a text between blanks and the marks that blanks are taken away at, which stay apart.

Does not own: which blanks are taken away.
-/

namespace Scaffold.Text

/-! ### Loss of blanks -/

/-- A text becomes another one by the loss of some blanks and of nothing else. -/
inductive LosesBlanks : List Char → List Char → Prop where
  | nil : LosesBlanks [] []
  | keep {text shorter : List Char} {char : Char}
      (behind : LosesBlanks text shorter) :
      LosesBlanks (char :: text) (char :: shorter)
  | lose {text shorter : List Char}
      (behind : LosesBlanks text shorter) :
      LosesBlanks (' ' :: text) shorter

namespace LosesBlanks

theorem refl (text : List Char) : LosesBlanks text text := by
  induction text with
  | nil => exact .nil
  | cons _ _ inductionHypothesis => exact .keep inductionHypothesis

theorem trans
    {text shorter shortest : List Char}
    (first : LosesBlanks text shorter)
    (second : LosesBlanks shorter shortest) :
    LosesBlanks text shortest := by
  induction first generalizing shortest with
  | nil => exact second
  | keep _ inductionHypothesis =>
      cases second with
      | keep behind => exact .keep (inductionHypothesis behind)
      | lose behind => exact .lose (inductionHypothesis behind)
  | lose _ inductionHypothesis => exact .lose (inductionHypothesis second)

/-- What is no blank stays, in its order. -/
theorem filter_eq
    {text shorter : List Char}
    (loses : LosesBlanks text shorter) :
    shorter.filter (· != ' ') = text.filter (· != ' ') := by
  induction loses with
  | nil => rfl
  | keep _ inductionHypothesis => rw [List.filter_cons, List.filter_cons, inductionHypothesis]
  | lose _ inductionHypothesis => rw [inductionHypothesis, List.filter_cons_of_neg (by decide)]

end LosesBlanks

theorem Sheds.losesBlanks
    {before text shorter : List Char}
    (sheds : Sheds before text shorter) :
    LosesBlanks text shorter := by
  induction sheds with
  | nil => exact .nil
  | keep _ inductionHypothesis => exact .keep inductionHypothesis
  | shed _ _ inductionHypothesis => exact .lose inductionHypothesis

/-! ### Words -/

/-- Does a character part words: a blank, or a mark that blanks are taken away at? -/
def partsWords (char : Char) : Bool :=
  [' ', ':', ',', '&', '*', '<', '>', '(', ')'].contains char

/-- A cut next to another one makes no piece of its own. -/
theorem filledPieces_beside_cut
    {cut : Char → Bool}
    {front rest : List Char}
    {gap : Char}
    (cuts : cut gap = true)
    (beside : (∃ mark ∈ front.getLast?, cut mark = true) ∨ ∃ mark ∈ rest.head?, cut mark = true) :
    filledPieces cut (front ++ rest) = filledPieces cut (front ++ gap :: rest) := by
  rw [filledPieces_append_cons cut front rest cuts]
  rcases beside with ⟨mark, isLast, cutsToo⟩ | ⟨mark, isFirst, cutsToo⟩
  · obtain ⟨before, rfl⟩ := List.getLast?_eq_some_iff.mp isLast
    have ofFront := filledPieces_append_cons cut before [] cutsToo
    rw [List.append_assoc, List.singleton_append, filledPieces_append_cons cut before rest cutsToo,
      ofFront, show filledPieces cut [] = [] from rfl, List.append_nil]
  · obtain ⟨behind, rfl⟩ := List.head?_eq_some_iff.mp isFirst
    have ofRest := filledPieces_append_cons cut [] behind cutsToo
    rw [List.nil_append, show filledPieces cut [] = [] from rfl, List.nil_append] at ofRest
    rw [filledPieces_append_cons cut front behind cutsToo, ofRest]

/-- A blank that is taken away behind something has a mark in front of it. -/
theorem exists_mark_of_isLooseBehind
    {before : List Char}
    (loose : isLooseBehind before = true) :
    ∃ mark ∈ before.head?, partsWords mark = true := by
  rw [isLooseBehind.eq_def] at loose
  split at loose
  · exact ⟨':', rfl, rfl⟩
  · next mark _ _ =>
      refine ⟨mark, rfl, ?_⟩
      simp only [List.contains_eq_mem, List.mem_cons, List.not_mem_nil, or_false,
        decide_eq_true_eq] at loose
      rcases loose with rfl | rfl | rfl | rfl <;> rfl
  · cases loose

/-- A blank that is taken away in front of something has a mark behind it. -/
theorem exists_mark_of_isLooseAhead
    {after : List Char}
    (loose : isLooseAhead after = true) :
    ∃ mark rest, after = mark :: rest ∧ mark ≠ ' ' ∧ partsWords mark = true := by
  rw [isLooseAhead.eq_def] at loose
  split at loose
  · exact ⟨':', _, rfl, by decide, rfl⟩
  · exact ⟨':', _, rfl, by decide, rfl⟩
  · next mark rest _ _ =>
      refine ⟨mark, rest, rfl, ?_⟩
      simp only [List.contains_eq_mem, List.mem_cons, List.not_mem_nil, or_false,
        decide_eq_true_eq] at loose
      rcases loose with rfl | rfl | rfl | rfl <;> decide
  · cases loose

/-- What a text begins with stays there unless it is a blank. -/
theorem Sheds.head?_eq
    {before text shorter : List Char}
    {char : Char}
    (sheds : Sheds before (char :: text) shorter)
    (noBlank : char ≠ ' ') :
    shorter.head? = some char := by
  cases sheds with
  | keep => rfl
  | shed => contradiction

/-- The blanks that are taken away part no words, for a mark next to each of them does so. -/
theorem Sheds.filledPieces_eq
    {before text shorter : List Char}
    (sheds : Sheds before text shorter) :
    filledPieces partsWords (before.reverse ++ shorter)
      = filledPieces partsWords (before.reverse ++ text) := by
  induction sheds with
  | nil => rfl
  | keep _ inductionHypothesis =>
      simpa only [List.reverse_cons, List.append_assoc, List.singleton_append] using inductionHypothesis
  | @shed before text shorter loose behind inductionHypothesis =>
      rw [List.reverse_cons, List.append_assoc, List.append_assoc, List.singleton_append,
        List.singleton_append] at inductionHypothesis
      rw [← inductionHypothesis]
      refine filledPieces_beside_cut rfl ?_
      rw [List.getLast?_reverse]
      rcases Bool.or_eq_true_iff.mp loose with isBehind | isAhead
      · exact .inl (exists_mark_of_isLooseBehind isBehind)
      · obtain ⟨mark, rest, rfl, noBlank, parts⟩ := exists_mark_of_isLooseAhead isAhead
        exact .inr ⟨mark, behind.head?_eq noBlank, parts⟩

/-! ### Compact texts -/

/-- A text becomes another one by the loss of blanks alone, which leaves everything else and all words
as they are, in their order. -/
structure KeepsWords (text shorter : List Char) : Prop where
  loses : LosesBlanks text shorter
  others : shorter.filter (· != ' ') = text.filter (· != ' ')
  words : filledPieces partsWords shorter = filledPieces partsWords text

namespace KeepsWords

theorem refl (text : List Char) : KeepsWords text text :=
  ⟨.refl text, rfl, rfl⟩

theorem trans
    {text shorter shortest : List Char}
    (first : KeepsWords text shorter)
    (second : KeepsWords shorter shortest) :
    KeepsWords text shortest where
  loses := first.loses.trans second.loses
  others := second.others.trans first.others
  words := second.words.trans first.words

theorem of_sheds
    {text shorter : List Char}
    (sheds : Sheds [] text shorter) :
    KeepsWords text shorter where
  loses := sheds.losesBlanks
  others := sheds.losesBlanks.filter_eq
  words := sheds.filledPieces_eq

theorem of_compacts
    {text shorter : List Char}
    (compacts : Compacts text shorter) :
    KeepsWords text shorter := by
  induction compacts with
  | refl => exact .refl _
  | step sheds _ inductionHypothesis => exact (of_sheds sheds).trans inductionHypothesis

end KeepsWords

/-- A compact text is the trimmed text without some of its blanks. No two of its words run into each
other, and neither do they in any of the replacements by themselves. -/
theorem compact_keepsWords (text : String) :
    KeepsWords (trim text).toList (compact text).toList
      ∧ ∀ rule ∈ compactions, ∀ current : String,
        KeepsWords current.toList (replaceAll rule.1 rule.2 current).toList := by
  constructor
  · rw [toList_trim]
    exact .of_compacts (compacts_compact text)
  · intro rule member current
    rw [replaceAll, String.toList_ofList]
    exact .of_sheds ((isCompaction_of_mem member).sheds (source_ne_nil_of_mem member) [] current.toList)

end Scaffold.Text
