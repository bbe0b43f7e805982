import Mathlib.Data.List.DropRight
import Scaffold.Proofs.Text.Compaction
import Scaffold.Text.Blank
import Scaffold.Text.Pieces

/-!
Contract: the two ends of a text.

Owns:
- texts without blanks at their ends, which are what trimming leaves;
- the removal of an ending as often as a text ends in it;
- the last piece of a text, behind the last place where a separator stands.

Does not own: the pieces between the characters of a class.
-/

namespace Scaffold.Text

/-! ### Blanks -/

/-- No blank stands at either end of a text. -/
structure IsTrimmed (text : List Char) : Prop where
  first : ∀ char ∈ text.head?, isBlank char = false
  last : ∀ char ∈ text.getLast?, isBlank char = false

theorem trimChars_eq (text : List Char) :
    trimChars text = (text.dropWhile isBlank).rdropWhile isBlank :=
  rfl

theorem isTrimmed_trimChars (text : List Char) : IsTrimmed (trimChars text) := by
  rw [trimChars_eq]
  constructor
  · intro char isFirst
    obtain ⟨behind, split⟩ := List.rdropWhile_prefix isBlank (text.dropWhile isBlank)
    have first : (text.dropWhile isBlank).head? = some char := by
      rw [← split, List.head?_append, isFirst]
      rfl
    have outside := List.head?_dropWhile_not isBlank text
    rw [first] at outside
    exact outside
  · intro char isLast
    obtain ⟨nonempty, rfl⟩ := List.mem_getLast?_eq_getLast isLast
    exact Bool.eq_false_iff.mpr (List.rdropWhile_last_not isBlank _ nonempty)

theorem trimChars_of_isTrimmed
    {text : List Char}
    (trimmed : IsTrimmed text) :
    trimChars text = text := by
  have front : text.dropWhile isBlank = text := by
    cases text with
    | nil => rfl
    | cons char rest => rw [List.dropWhile_cons_of_neg (by simp [trimmed.first char rfl])]
  rw [trimChars_eq, front, List.rdropWhile_eq_self_iff]
  intro nonempty
  rw [trimmed.last _ (List.getLast?_eq_some_getLast nonempty)]
  exact Bool.false_ne_true

/-- Trimming takes away blanks in front and behind. -/
theorem exists_blanks_trimChars (text : List Char) :
    ∃ front back, text = front ++ (trimChars text ++ back)
      ∧ (∀ char ∈ front, isBlank char = true) ∧ ∀ char ∈ back, isBlank char = true := by
  refine ⟨text.takeWhile isBlank, (text.dropWhile isBlank).rtakeWhile isBlank, ?_,
    fun char => List.mem_takeWhile_imp, fun char => List.mem_rtakeWhile_imp⟩
  rw [trimChars_eq, List.rdropWhile_append_rtakeWhile, List.takeWhile_append_dropWhile]

theorem toList_trim (text : String) : (trim text).toList = trimChars text.toList :=
  String.toList_ofList

theorem trim_of_isTrimmed
    {text : String}
    (trimmed : IsTrimmed text.toList) :
    trim text = text := by
  rw [trim, trimChars_of_isTrimmed trimmed, String.ofList_toList]

/-! ### Repeated endings -/

theorem dropLeads_append
    {lead : List Char}
    (nonempty : lead ≠ [])
    (fuel : Nat)
    (text : List Char) :
    dropLeads lead (fuel + 1) (lead ++ text) = dropLeads lead fuel text := by
  cases lead with
  | nil => contradiction
  | cons first more =>
      rw [dropLeads]
      simp only [afterLiteral_eq_some_iff.mpr rfl]

theorem dropLeads_of_not_isPrefix
    {lead text : List Char}
    (apart : ¬lead <+: text)
    (fuel : Nat) :
    dropLeads lead fuel text = text := by
  have missing : afterLiteral lead text = none := by
    rw [Option.eq_none_iff_forall_ne_some]
    exact fun rest found => apart ⟨rest, (afterLiteral_eq_some_iff.mp found).symm⟩
  cases fuel with
  | zero => rfl
  | succ fuel =>
      cases lead with
      | nil => exact absurd (List.nil_prefix) apart
      | cons first more =>
          rw [dropLeads]
          simp only [missing]

/-- What is left behind the leads is the end of the text, and no lead stands in front of it if `fuel`
lets all of them go. -/
theorem dropLeads_spec
    {lead : List Char}
    (nonempty : lead ≠ [])
    (fuel : Nat)
    (text : List Char) :
    dropLeads lead fuel text <:+ text
      ∧ (text.length ≤ fuel → ¬lead <+: dropLeads lead fuel text) := by
  induction fuel generalizing text with
  | zero =>
      refine ⟨List.suffix_rfl, fun isEmpty => ?_⟩
      rw [List.eq_nil_of_length_eq_zero (Nat.le_zero.mp isEmpty)]
      simpa [dropLeads] using nonempty
  | succ fuel inductionHypothesis =>
      by_cases leads : lead <+: text
      · obtain ⟨rest, rfl⟩ := leads
        obtain ⟨isEnd, clean⟩ := inductionHypothesis rest
        rw [dropLeads_append nonempty]
        refine ⟨isEnd.trans (List.suffix_append lead rest), fun enough => clean ?_⟩
        have positive := List.length_pos_iff.mpr nonempty
        rw [List.length_append] at enough
        omega
      · rw [dropLeads_of_not_isPrefix leads]
        exact ⟨List.suffix_rfl, fun _ => leads⟩

variable {ending text : String}

theorem toList_trimEnding (ending text : String) :
    (trimEnding ending text).toList
      = (dropLeads ending.toList.reverse text.length text.toList.reverse).reverse :=
  String.toList_ofList

/-- What is left of a text stands at its front, and does not end in what was removed. -/
theorem trimEnding_spec
    (nonempty : ending ≠ "")
    (text : String) :
    (trimEnding ending text).toList <+: text.toList
      ∧ ¬ending.toList <:+ (trimEnding ending text).toList := by
  have reversed : ending.toList.reverse ≠ [] := by simpa using nonempty
  obtain ⟨isEnd, clean⟩ := dropLeads_spec reversed text.length text.toList.reverse
  rw [toList_trimEnding]
  constructor
  · rwa [← List.reverse_suffix, List.reverse_reverse]
  · rw [← List.reverse_prefix, List.reverse_reverse]
    exact clean (by rw [List.length_reverse, String.length_toList])

theorem trimEnding_of_not_isSuffix (apart : ¬ending.toList <:+ text.toList) :
    trimEnding ending text = text := by
  rw [← String.toList_inj, toList_trimEnding, dropLeads_of_not_isPrefix, List.reverse_reverse]
  rwa [List.reverse_prefix]

/-- An ending added to a text that does not end in it is removed again. -/
theorem trimEnding_append
    (nonempty : ending ≠ "")
    (apart : ¬ending.toList <:+ text.toList) :
    trimEnding ending (text ++ ending) = text := by
  have positive : 0 < ending.length := by
    rw [← String.length_toList, List.length_pos_iff]
    simpa using nonempty
  obtain ⟨fuel, enough⟩ : ∃ fuel, (text ++ ending).length = fuel + 1 :=
    ⟨text.length + ending.length - 1, by rw [String.length_append]; omega⟩
  rw [← String.toList_inj, toList_trimEnding, enough, String.toList_append, List.reverse_append,
    dropLeads_append (by simpa using nonempty), dropLeads_of_not_isPrefix, List.reverse_reverse]
  rwa [List.reverse_prefix]

/-! ### The last piece -/

/-- A text has a last piece: what stands behind the last occurrence of the separator, which is the
one that leaves the least behind it, or all of the text where the separator does not occur. -/
def IsLastPiece (separator text piece : String) : Prop :=
  (¬separator.toList <:+: text.toList ∧ piece = text)
    ∨ ∃ front, text = front ++ separator ++ piece
      ∧ ∀ earlier behind, text = earlier ++ separator ++ behind → piece.length ≤ behind.length

/-- What is in front of a literal ends where the literal starts for the first time. -/
theorem beforeLiteral_cases
    {literal : List Char}
    (nonempty : literal ≠ [])
    (text : List Char) :
    (¬literal <:+: text ∧ beforeLiteral literal text = text)
      ∨ ∃ back, text = beforeLiteral literal text ++ literal ++ back
        ∧ ∀ front behind, text = front ++ literal ++ behind →
          (beforeLiteral literal text).length ≤ front.length := by
  induction text with
  | nil => exact .inl ⟨by rwa [List.infix_nil], rfl⟩
  | cons char rest inductionHypothesis =>
      cases found : afterLiteral literal (char :: rest) with
      | some back =>
          have same : beforeLiteral literal (char :: rest) = [] := by
            rw [beforeLiteral, found]
            rfl
          rw [same]
          exact .inr ⟨back, afterLiteral_eq_some_iff.mp found, fun _ _ _ => Nat.zero_le _⟩
      | none =>
          have apart : ¬literal <+: char :: rest := by
            rintro ⟨back, split⟩
            rw [afterLiteral_eq_some_iff.mpr split.symm] at found
            cases found
          have same : beforeLiteral literal (char :: rest) = char :: beforeLiteral literal rest := by
            rw [beforeLiteral, found]
            rfl
          rw [same]
          rcases inductionHypothesis with ⟨absent, whole⟩ | ⟨back, split, isFirst⟩
          · refine .inl ⟨fun occurs => ?_, by rw [whole]⟩
            exact (List.infix_cons_iff.mp occurs).elim apart absent
          · refine .inr ⟨back, by rw [List.cons_append, List.cons_append, ← split], ?_⟩
            intro front behind other
            cases front with
            | nil => exact absurd ⟨behind, other.symm⟩ apart
            | cons first front =>
                rw [List.cons_append, List.cons_append, List.cons.injEq] at other
                exact Nat.succ_le_succ (isFirst front behind other.2)

variable {separator piece : String}

theorem isLastPiece_lastPiece
    (nonempty : separator ≠ "")
    (text : String) :
    IsLastPiece separator text (lastPiece separator text) := by
  have toList : (lastPiece separator text).toList
      = (beforeLiteral separator.toList.reverse text.toList.reverse).reverse :=
    String.toList_ofList
  have reversed : separator.toList.reverse ≠ [] := by simpa using nonempty
  rcases beforeLiteral_cases reversed text.toList.reverse with ⟨absent, whole⟩ | ⟨back, split, isFirst⟩
  · refine .inl ⟨by rwa [List.reverse_infix] at absent, ?_⟩
    rw [← String.toList_inj, toList, whole, List.reverse_reverse]
  · refine .inr ⟨String.ofList back.reverse, ?_, fun earlier behind other => ?_⟩
    · have reversed := congrArg List.reverse split
      rw [List.reverse_reverse, List.reverse_append, List.reverse_append, List.reverse_reverse,
        ← toList] at reversed
      rw [← String.toList_inj, reversed, String.toList_append, String.toList_append,
        String.toList_ofList, List.append_assoc]
    · have reversed : text.toList.reverse
          = behind.toList.reverse ++ separator.toList.reverse ++ earlier.toList.reverse := by
        simp [other]
      have leastBehind := isFirst _ _ reversed
      rw [← String.length_toList, ← String.length_toList, toList, List.length_reverse]
      rwa [List.length_reverse] at leastBehind

theorem IsLastPiece.isSuffix (isLast : IsLastPiece separator text piece) :
    piece.toList <:+ text.toList := by
  rcases isLast with ⟨-, rfl⟩ | ⟨front, rfl, -⟩
  · exact List.suffix_rfl
  · rw [String.toList_append]
    exact List.suffix_append _ _

theorem IsLastPiece.unique
    {other : String}
    (isLast : IsLastPiece separator text piece)
    (isLastToo : IsLastPiece separator text other) :
    piece = other := by
  have occurs {front behind : String} (split : text = front ++ separator ++ behind) :
      separator.toList <:+: text.toList :=
    ⟨front.toList, behind.toList, by rw [split, String.toList_append, String.toList_append]⟩
  have suffix := isLast.isSuffix
  have suffixToo := isLastToo.isSuffix
  rcases isLast with ⟨absent, rfl⟩ | ⟨front, split, least⟩ <;>
    rcases isLastToo with ⟨absentToo, rfl⟩ | ⟨frontToo, splitToo, leastToo⟩
  · rfl
  · exact absurd (occurs splitToo) absent
  · exact absurd (occurs split) absentToo
  · have sameLength : piece.toList.length = other.toList.length := by
      rw [String.length_toList, String.length_toList]
      exact Nat.le_antisymm (least _ _ splitToo) (leastToo _ _ split)
    rw [← String.toList_inj]
    exact (List.suffix_of_suffix_length_le suffix suffixToo sameLength.le).eq_of_length sameLength

theorem lastPiece_eq_iff (nonempty : separator ≠ "") :
    lastPiece separator text = piece ↔ IsLastPiece separator text piece := by
  have isLast := isLastPiece_lastPiece nonempty text
  constructor
  · rintro rfl
    exact isLast
  · exact isLast.unique

/-- A text without the characters of the separator is its own last piece. -/
theorem isLastPiece_self
    (nonempty : separator ≠ "")
    (apart : ∀ char ∈ separator.toList, char ∉ piece.toList) :
    IsLastPiece separator piece piece := by
  refine .inl ⟨fun occurs => ?_, rfl⟩
  obtain ⟨char, isFirst⟩ := List.exists_mem_of_ne_nil separator.toList (by simpa using nonempty)
  exact apart char isFirst (occurs.subset isFirst)

/-- A text without the characters of the separator is the last piece behind any separator. -/
theorem isLastPiece_append
    (nonempty : separator ≠ "")
    (apart : ∀ char ∈ separator.toList, char ∉ piece.toList)
    (front : String) :
    IsLastPiece separator (front ++ separator ++ piece) piece := by
  refine .inr ⟨front, rfl, fun earlier behind other => ?_⟩
  by_contra shorter
  -- The separator's last character would stand in the piece.
  obtain ⟨before, last, split⟩ := List.eq_nil_or_concat separator.toList |>.resolve_left
    (by simpa using nonempty)
  have suffix : last :: behind.toList <:+ (front ++ separator ++ piece).toList := by
    refine ⟨earlier.toList ++ before, ?_⟩
    simp [other, split]
  have pieceSuffix : piece.toList <:+ (front ++ separator ++ piece).toList :=
    ⟨(front ++ separator).toList, (String.toList_append ..).symm⟩
  have inPiece := List.suffix_of_suffix_length_le suffix pieceSuffix (by
    rw [List.length_cons, String.length_toList, String.length_toList]
    omega)
  exact apart last (by simp [split]) (inPiece.subset List.mem_cons_self)

end Scaffold.Text
