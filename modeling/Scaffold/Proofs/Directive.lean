import Scaffold.Proofs.Generation.Discovery
import Scaffold.Proofs.Text.Ends
import Scaffold.Proofs.Text.Pieces

/-!
Contract: the words of documentation that is spread over attributes.

Owns:
- the lines of documentation among attributes, and the words that stand whole in them;
- the words of texts that are trimmed or joined, which are those of the parts;
- the directive of documentation, which depends on these words alone.

Does not own: what is done with a directive.
-/

namespace Scaffold

open Source

/-! ### Lines of documentation -/

/-- An attribute is a line of documentation: it sets `doc` to a string. -/
def IsDocLine (entry : Node .attribute) (line : String) : Prop :=
  ∃ inner literal, entry = .valueAttribute inner ⟨false, ["doc"]⟩ (.literalExpr literal)
    ∧ StringLiteral.value? literal = some line

theorem attributeText?_doc_eq_some_iff
    {entry : Node .attribute}
    {line : String} :
    entry.attributeText? "doc" = some line ↔ IsDocLine entry line := by
  constructor
  · intro found
    rw [Node.attributeText?.eq_def] at found
    split at found
    · split at found
      · next named => exact ⟨_, _, by rw [named], found⟩
      · cases found
    · cases found
  · rintro ⟨inner, literal, rfl, value⟩
    rw [Node.attributeText?, if_pos rfl, value]

theorem IsDocLine.holds_iff
    {entry : Node .attribute}
    {line : String}
    (isLine : IsDocLine entry line)
    {holds : String → Prop} :
    (∃ other, IsDocLine entry other ∧ holds other) ↔ holds line := by
  constructor
  · rintro ⟨other, isOther, ofOther⟩
    rw [← attributeText?_doc_eq_some_iff] at isLine isOther
    rw [isLine] at isOther
    cases isOther
    exact ofOther
  · exact fun ofLine => ⟨line, isLine, ofLine⟩

/-- The lines of documentation among attributes. -/
def docLines (attributes : List (Node .attribute)) : List String :=
  attributes.filterMap (Node.attributeText? "doc")

namespace Directive

/-- A word stands whole in a line of documentation. -/
def OccursIn (attributes : List (Node .attribute)) (word : String) : Prop :=
  ∃ entry ∈ attributes, ∃ line, IsDocLine entry line ∧ Holds line word

/-! ### Words of trimmed and joined texts -/

theorem words_eq (doc : String) :
    words doc = (Text.filledPieces isCut doc.toList).map String.ofList :=
  rfl

theorem words_trim (doc : String) : words (Text.trim doc) = words doc := by
  have cuts {gap : List Char} (blanks : ∀ char ∈ gap, Text.isBlank char = true) :
      ∀ char ∈ gap, isCut char = true := by
    intro char member
    rw [isCut, blanks char member, Bool.true_or]
  obtain ⟨front, back, split, ofFront, ofBack⟩ := Text.exists_blanks_trimChars doc.toList
  have same : Text.filledPieces isCut doc.toList
      = Text.filledPieces isCut (Text.trimChars doc.toList) := by
    conv_lhs => rw [split, Text.filledPieces_behind_gap (cuts ofFront),
      Text.filledPieces_before_gap (cuts ofBack)]
  rw [words_eq, words_eq, Text.toList_trim, same]

/-- A gap between two texts leaves their words as they are. -/
theorem words_around_gap
    {gap : String}
    (nonempty : gap ≠ "")
    (cuts : ∀ char ∈ gap.toList, isCut char = true)
    (first second : String) :
    words (first ++ gap ++ second) = words first ++ words second := by
  rw [words_eq, String.toList_append, String.toList_append, List.append_assoc,
    Text.filledPieces_around_gap (by simpa using nonempty) cuts, List.map_append]
  rfl

theorem words_joinedBy (lines : List String) :
    words (joinedBy "\n" lines) = lines.flatMap words := by
  induction lines with
  | nil => rfl
  | cons line rest inductionHypothesis =>
      cases rest with
      | nil => simp [joinedBy]
      | cons next rest =>
          have joined : joinedBy "\n" (line :: next :: rest)
              = line ++ "\n" ++ joinedBy "\n" (next :: rest) := by
            simp [joinedBy]
          have cuts : ∀ char ∈ "\n".toList, isCut char = true := by simp [isCut, Text.isBlank]
          rw [joined, words_around_gap (by decide) cuts, inductionHypothesis, ← List.flatMap_cons]

/-- The words of documentation are those of its lines, in their order. -/
theorem words_docText (attributes : List (Node .attribute)) :
    words (docText attributes) = (docLines attributes).flatMap words := by
  rw [docText, words_trim, words_joinedBy, List.flatMap_map]
  simp only [words_trim]
  rfl

/-! ### Words that stand whole -/

variable {word : String}

theorem holds_docText_iff
    {attributes : List (Node .attribute)}
    (isWord : IsWord word) :
    Holds (docText attributes) word ↔ OccursIn attributes word := by
  rw [← mem_words_iff isWord, words_docText, List.mem_flatMap]
  simp only [docLines, List.mem_filterMap, attributeText?_doc_eq_some_iff, mem_words_iff isWord]
  constructor
  · rintro ⟨line, ⟨entry, member, isLine⟩, holds⟩
    exact ⟨entry, member, line, isLine, holds⟩
  · rintro ⟨entry, member, line, isLine, holds⟩
    exact ⟨line, ⟨entry, member, isLine⟩, holds⟩

theorem holds_around_gap_iff
    (isWord : IsWord word)
    {gap : String}
    (nonempty : gap ≠ "")
    (cuts : ∀ char ∈ gap.toList, isCut char = true)
    {first second : String} :
    Holds (first ++ gap ++ second) word ↔ Holds first word ∨ Holds second word := by
  simp only [← mem_words_iff isWord, words_around_gap nonempty cuts, List.mem_append]

/-! ### Directives -/

/-- Texts that hold the same ones of the words that count have the same directive. -/
theorem parse?_congr
    {left right : String}
    (same : ∀ word, IsWord word → (Holds left word ↔ Holds right word)) :
    parse? left = parse? right := by
  cases parsed : parse? left with
  | none =>
      symm
      rw [← Option.not_isSome_iff_eq_none, parse?_isSome_iff, ← same marker isWord_marker,
        ← parse?_isSome_iff, parsed]
      exact Bool.false_ne_true
  | some directive =>
      have tagged : Holds right marker := by
        rw [← same marker isWord_marker, ← parse?_isSome_iff, parsed]
        rfl
      obtain ⟨other, otherParsed⟩ := Option.isSome_iff_exists.mp (parse?_isSome_iff.mpr tagged)
      have sameOptions : directive = other := eq_of_has fun option => by
        rw [Bool.eq_iff_iff, has_of_parse? parsed, has_of_parse? otherParsed]
        exact same option.token (isWord_token option)
      rw [otherParsed, sameOptions]

/-- The directive of documentation. It is one exactly if the marker stands whole in a line, and its
options are those whose words do. So neither the order of the lines counts, nor how often one is there,
nor where one ends and the next begins. A gap between two texts neither joins words nor parts them. -/
theorem parse?_docText (attributes : List (Node .attribute)) :
    ((parse? (docText attributes)).isSome = true ↔ OccursIn attributes marker)
      ∧ (∀ directive, parse? (docText attributes) = some directive →
        ∀ option, directive.has option = true ↔ OccursIn attributes option.token)
      ∧ (∀ word, IsWord word → (Holds (docText attributes) word ↔ OccursIn attributes word))
      ∧ (∀ others, (∀ entry, entry ∈ others ↔ entry ∈ attributes) →
        parse? (docText others) = parse? (docText attributes))
      ∧ (∀ gap, gap ≠ "" → (∀ char ∈ gap.toList, isCut char = true) → ∀ first second,
        (∀ front back whole upper lower, attributes = front ++ whole :: back →
          IsDocLine whole (first ++ gap ++ second) → IsDocLine upper first → IsDocLine lower second →
          parse? (docText (front ++ upper :: lower :: back)) = parse? (docText attributes))
        ∧ ((parse? (first ++ gap ++ second)).isSome = true
          ↔ Holds first marker ∨ Holds second marker)
        ∧ ∀ directive, parse? (first ++ gap ++ second) = some directive →
          ∀ option, directive.has option = true
            ↔ Holds first option.token ∨ Holds second option.token) := by
  refine ⟨?_, fun directive parsed option => ?_, fun word => holds_docText_iff, fun others same => ?_,
    fun gap nonempty cuts first second => ⟨?_, ?_, fun directive parsed option => ?_⟩⟩
  · rw [parse?_isSome_iff, holds_docText_iff isWord_marker]
  · rw [has_of_parse? parsed, holds_docText_iff (isWord_token option)]
  · refine parse?_congr fun word isWord => ?_
    simp only [holds_docText_iff isWord, OccursIn, same]
  · rintro front back whole upper lower rfl isWhole isUpper isLower
    refine parse?_congr fun word isWord => ?_
    simp only [holds_docText_iff isWord, OccursIn, List.mem_append, List.mem_cons, or_and_right, exists_or,
      exists_eq_left, isWhole.holds_iff, isUpper.holds_iff, isLower.holds_iff,
      holds_around_gap_iff isWord nonempty cuts, or_assoc]
  · rw [parse?_isSome_iff, holds_around_gap_iff isWord_marker nonempty cuts]
  · rw [has_of_parse? parsed, holds_around_gap_iff (isWord_token option) nonempty cuts]

end Directive

end Scaffold
