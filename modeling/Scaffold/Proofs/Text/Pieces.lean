import Scaffold.Text.Pieces

/-!
Contract: the pieces of a text between the characters of a class.

Owns:
- the pieces around a character that cuts the text;
- which texts are pieces: those that stand whole between two places where the text is cut or ends;
- the pieces with characters, which gaps of any length part.

Does not own: which characters cut.
-/

namespace Scaffold.Text

variable {cut : Char → Bool}

theorem splitAtAll_ne_nil (cut : Char → Bool) (text : List Char) :
    splitAtAll cut text ≠ [] := by
  cases text with
  | nil => simp [splitAtAll]
  | cons char rest =>
      rw [splitAtAll]
      split
      · simp
      · split <;> simp

/-- A character that cuts parts the pieces in front of it from those behind it. -/
theorem splitAtAll_append_cons
    (cut : Char → Bool)
    (front rest : List Char)
    (char : Char)
    (cuts : cut char = true) :
    splitAtAll cut (front ++ char :: rest) = splitAtAll cut front ++ splitAtAll cut rest := by
  induction front with
  | nil => simp [splitAtAll, cuts]
  | cons first front inductionHypothesis =>
      rw [List.cons_append, splitAtAll, splitAtAll, inductionHypothesis]
      split
      · rfl
      · cases pieces : splitAtAll cut front with
        | nil => exact absurd pieces (splitAtAll_ne_nil cut front)
        | cons piece more => rfl

/-- A text in which nothing cuts is its only piece. -/
theorem splitAtAll_of_forall_not
    {text : List Char}
    (whole : ∀ char ∈ text, cut char = false) :
    splitAtAll cut text = [text] := by
  induction text with
  | nil => rfl
  | cons char rest inductionHypothesis =>
      obtain ⟨here, behind⟩ := List.forall_mem_cons.mp whole
      simp [splitAtAll, here, inductionHypothesis behind]

/-- A text starts whole in front of another one: nothing cuts in it, and the other one is empty or
starts with a character that cuts. -/
def StartsWhole (cut : Char → Bool) (piece back : List Char) : Prop :=
  (∀ char ∈ piece, cut char = false) ∧ ∀ char ∈ back.head?, cut char = true

/-- The first piece stands whole at the start of the text, and each other one behind a character that
cuts. -/
theorem splitAtAll_places (cut : Char → Bool) (text : List Char) :
    ∃ first more, splitAtAll cut text = first :: more
      ∧ (∃ back, text = first ++ back ∧ StartsWhole cut first back)
      ∧ ∀ piece ∈ more, ∃ front char back,
        text = front ++ char :: (piece ++ back) ∧ cut char = true ∧ StartsWhole cut piece back := by
  induction text with
  | nil => exact ⟨[], [], rfl, ⟨[], rfl, nofun, nofun⟩, nofun⟩
  | cons char rest inductionHypothesis =>
      obtain ⟨first, more, pieces, ⟨back, same, whole, closed⟩, others⟩ := inductionHypothesis
      have behind : ∀ piece ∈ more, ∃ front cutter back,
          char :: rest = front ++ cutter :: (piece ++ back) ∧ cut cutter = true
            ∧ StartsWhole cut piece back := by
        intro piece member
        obtain ⟨front, cutter, back, split, cuts, starts⟩ := others piece member
        exact ⟨char :: front, cutter, back, by rw [split, List.cons_append], cuts, starts⟩
      rw [splitAtAll, pieces]
      cases cuts : cut char with
      | true =>
          refine ⟨[], first :: more, rfl, ⟨char :: rest, rfl, nofun, by simpa using cuts⟩, ?_⟩
          refine List.forall_mem_cons.mpr ⟨⟨[], char, back, ?_, cuts, whole, closed⟩, behind⟩
          rw [same, List.nil_append]
      | false =>
          refine ⟨char :: first, more, rfl, ⟨back, ?_, ?_, closed⟩, behind⟩
          · rw [same, List.cons_append]
          · exact List.forall_mem_cons.mpr ⟨cuts, whole⟩

/-- The pieces of a text are what stands whole in it, behind its start or a character that cuts. -/
theorem mem_splitAtAll_iff {piece text : List Char} :
    piece ∈ splitAtAll cut text
      ↔ ∃ front back, text = front ++ piece ++ back
        ∧ (∀ char ∈ front.getLast?, cut char = true) ∧ StartsWhole cut piece back := by
  constructor
  · intro member
    obtain ⟨first, more, pieces, ⟨back, same, starts⟩, others⟩ := splitAtAll_places cut text
    rw [pieces] at member
    rcases List.mem_cons.mp member with rfl | behind
    · exact ⟨[], back, same, nofun, starts⟩
    · obtain ⟨front, char, back, split, cuts, starts⟩ := others piece behind
      exact ⟨front ++ [char], back, by simp [split], by simpa using cuts, starts⟩
  · rintro ⟨front, back, rfl, opened, whole, closed⟩
    have inTail : piece ∈ splitAtAll cut (piece ++ back) := by
      cases back with
      | nil => simp [splitAtAll_of_forall_not whole]
      | cons char back =>
          rw [splitAtAll_append_cons cut piece back char (closed char rfl),
            splitAtAll_of_forall_not whole]
          exact List.mem_cons_self
    rcases List.eq_nil_or_concat front with rfl | ⟨before, char, rfl⟩
    · exact inTail
    · have cuts := opened char (by simp)
      rw [List.concat_eq_append, List.append_assoc, List.append_assoc, List.singleton_append,
        splitAtAll_append_cons cut before _ char cuts]
      exact List.mem_append_right _ inTail

/-! ### Pieces with characters -/

/-- The pieces that hold at least one character. -/
def filledPieces (cut : Char → Bool) (text : List Char) : List (List Char) :=
  (splitAtAll cut text).filter fun piece => !piece.isEmpty

theorem nonemptyPieces_eq (cut : Char → Bool) (text : String) :
    nonemptyPieces cut text = (filledPieces cut text.toList).map String.ofList :=
  rfl

theorem filledPieces_append_cons
    (cut : Char → Bool)
    (front rest : List Char)
    {char : Char}
    (cuts : cut char = true) :
    filledPieces cut (front ++ char :: rest) = filledPieces cut front ++ filledPieces cut rest := by
  rw [filledPieces, splitAtAll_append_cons cut front rest char cuts, List.filter_append]
  rfl

theorem filledPieces_behind_gap
    {gap : List Char}
    (cuts : ∀ char ∈ gap, cut char = true)
    (rest : List Char) :
    filledPieces cut (gap ++ rest) = filledPieces cut rest := by
  induction gap with
  | nil => rfl
  | cons char gap inductionHypothesis =>
      obtain ⟨here, behind⟩ := List.forall_mem_cons.mp cuts
      exact (filledPieces_append_cons cut [] (gap ++ rest) here).trans (inductionHypothesis behind)

/-- A gap parts the pieces in front of it from those behind it, however long it is. -/
theorem filledPieces_around_gap
    {gap : List Char}
    (nonempty : gap ≠ [])
    (cuts : ∀ char ∈ gap, cut char = true)
    (front rest : List Char) :
    filledPieces cut (front ++ (gap ++ rest)) = filledPieces cut front ++ filledPieces cut rest := by
  cases gap with
  | nil => contradiction
  | cons char gap =>
      obtain ⟨here, behind⟩ := List.forall_mem_cons.mp cuts
      rw [List.cons_append, filledPieces_append_cons cut front (gap ++ rest) here,
        filledPieces_behind_gap behind]

theorem filledPieces_before_gap
    {gap : List Char}
    (cuts : ∀ char ∈ gap, cut char = true)
    (front : List Char) :
    filledPieces cut (front ++ gap) = filledPieces cut front := by
  by_cases isEmpty : gap = []
  · rw [isEmpty, List.append_nil]
  · have parted := filledPieces_around_gap isEmpty cuts front []
    rwa [List.append_nil, show filledPieces cut [] = [] from rfl, List.append_nil] at parted

theorem mem_nonemptyPieces_iff {piece text : String} :
    piece ∈ nonemptyPieces cut text ↔ piece ≠ "" ∧ piece.toList ∈ splitAtAll cut text.toList := by
  rw [nonemptyPieces_eq, List.mem_map]
  constructor
  · rintro ⟨chars, member, rfl⟩
    obtain ⟨inPieces, nonempty⟩ := List.mem_filter.mp member
    refine ⟨fun same => ?_, by rwa [String.toList_ofList]⟩
    rw [String.ofList_eq_empty_iff.mp same] at nonempty
    exact absurd nonempty (by decide)
  · rintro ⟨nonempty, inPieces⟩
    refine ⟨piece.toList, List.mem_filter.mpr ⟨inPieces, ?_⟩, String.ofList_toList⟩
    simpa [List.isEmpty_iff] using nonempty

end Scaffold.Text
