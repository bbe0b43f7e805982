import Scaffold.Proofs.Text.Pieces
import Scaffold.Proofs.Text.Words

/-!
Contract: which names have the same spelling.

Owns:
- the words of a name, none of which is empty or has a mark in it, in lower case too;
- names in snake case and in kebab case, which are the same exactly if the words in lower case are.

Does not own: the other spellings, which do not show where a word ends.
-/

namespace Scaffold.Text

/-! ### Joined pieces -/

/-- Pieces in which nothing cuts are read back from the text that joins them by a character that does. -/
theorem splitAtAll_intercalate
    (cut : Char → Bool)
    {separator : Char}
    (cuts : cut separator = true)
    {pieces : List (List Char)}
    (nonempty : pieces ≠ [])
    (whole : ∀ piece ∈ pieces, ∀ char ∈ piece, cut char = false) :
    splitAtAll cut ([separator].intercalate pieces) = pieces := by
  induction pieces with
  | nil => exact absurd rfl nonempty
  | cons first rest inductionHypothesis =>
      obtain ⟨here, behind⟩ := List.forall_mem_cons.mp whole
      cases rest with
      | nil => rw [List.intercalate_singleton, splitAtAll_of_forall_not here]
      | cons second rest =>
          rw [List.intercalate_cons_cons, List.append_assoc, List.singleton_append,
            splitAtAll_append_cons cut first _ separator cuts, splitAtAll_of_forall_not here,
            inductionHypothesis (List.cons_ne_nil _ _) behind, List.singleton_append]

/-! ### Words -/

/-- A word has at least one character, and each of them is a letter, a number or outside of ASCII. -/
structure IsPlainWord (word : List Char) : Prop where
  nonempty : word ≠ []
  plain : ∀ char ∈ word, char.toNat < 0x80 → isAlphanumeric char = true

theorem ne_nil_of_mem_wordsFrom
    {mode : CaseMode}
    {current text word : List Char}
    (member : word ∈ wordsFrom mode current text)
    (started : mode = .upper → current ≠ []) :
    word ≠ [] := by
  fun_induction wordsFrom mode current text with
  | case1 => contradiction
  | case2 mode current last =>
      rw [List.mem_singleton.mp member]
      simp
  | case3 mode current first next rest following ends inductionHypothesis =>
      rcases List.mem_cons.mp member with rfl | later
      · simp
      · exact inductionHypothesis later fun isUpper => CaseMode.noConfusion isUpper
  | case4 mode current first next rest following ends starts inductionHypothesis =>
      rcases List.mem_cons.mp member with rfl | later
      · simpa using started starts.1
      · exact inductionHypothesis later fun isUpper => CaseMode.noConfusion isUpper
  | case5 mode current first next rest following ends starts inductionHypothesis =>
      exact inductionHypothesis member fun _ => List.cons_ne_nil _ _

theorem isPlainWord_of_mem_words
    {name : String}
    {word : List Char}
    (member : word ∈ words name) :
    IsPlainWord word := by
  obtain ⟨run, -, inRun⟩ := List.mem_flatMap.mp member
  exact ⟨ne_nil_of_mem_wordsFrom inRun nofun, fun char within _ => (mem_of_mem_words member within).2⟩

/-! ### Lower case -/

theorem isPlainWord_lowerWord
    {word : List Char}
    (isPlain : IsPlainWord word) :
    IsPlainWord (lowerWord word) := by
  obtain ⟨nonempty, plain⟩ := isPlain
  constructor
  · cases word with
    | nil => exact absurd rfl nonempty
    | cons first rest =>
        cases rest with
        | nil =>
            rw [lowerWord]
            split
            · simp
            · exact lowercase_ne_nil first
        | cons second rest =>
            rw [lowerWord]
            · exact List.append_ne_nil_of_left_ne_nil (lowercase_ne_nil first) _
            · simp
  · exact forall_mem_lowerWord (by decide) (fun _ => plain_lowercase) plain

/-! ### Spellings -/

/-- The words of a name in lower case. -/
def lowerWords (name : String) : List (List Char) :=
  (words name).map lowerWord

theorem isPlainWord_of_mem_lowerWords
    {name : String}
    {word : List Char}
    (member : word ∈ lowerWords name) :
    IsPlainWord word := by
  obtain ⟨source, isWord, rfl⟩ := List.mem_map.mp member
  exact isPlainWord_lowerWord (isPlainWord_of_mem_words isWord)

/-- Lower case words are told apart by what they are joined to with a mark between them. -/
theorem joinWords_lowerWords_eq_iff
    (separator : Char)
    (isMark : separator.toNat < 0x80 ∧ isAlphanumeric separator = false)
    {left right : String} :
    joinWords (String.ofList [separator]) (lowerWords left)
        = joinWords (String.ofList [separator]) (lowerWords right)
      ↔ lowerWords left = lowerWords right := by
  have joined (name : String) : (joinWords (String.ofList [separator]) (lowerWords name)).toList
      = [separator].intercalate (lowerWords name) := by
    simp [joinWords, String.toList_intercalate, Function.comp_def]
  have whole (name : String) :
      ∀ word ∈ lowerWords name, ∀ char ∈ word, (char == separator) = false := by
    intro word member char within
    refine beq_false_of_ne fun same => ?_
    subst same
    have plain := (isPlainWord_of_mem_lowerWords member).plain char within isMark.1
    rw [isMark.2] at plain
    cases plain
  -- Where there are no words, the text that is read back has one empty piece, which no word is.
  have readBack (name : String) :
      (splitAtAll (· == separator) ([separator].intercalate (lowerWords name))).filter (· ≠ [])
        = lowerWords name := by
    have nonempty : (lowerWords name).filter (· ≠ []) = lowerWords name := by
      rw [List.filter_eq_self]
      exact fun word member => by simpa using (isPlainWord_of_mem_lowerWords member).nonempty
    by_cases isNone : lowerWords name = []
    · rw [isNone]
      rfl
    · rw [splitAtAll_intercalate (· == separator) (beq_self_eq_true separator) isNone (whole name),
        nonempty]
  constructor
  · intro same
    rw [← readBack left, ← joined left, same, joined right, readBack right]
  · intro same
    rw [same]

/-- Names have the same kebab case exactly if they have the same words in lower case. -/
theorem kebabCase_eq_iff {left right : String} :
    kebabCase left = kebabCase right ↔ lowerWords left = lowerWords right :=
  joinWords_lowerWords_eq_iff '-' ⟨by decide, by decide⟩

/-- Names have the same snake case exactly if they have the same words in lower case. -/
theorem snakeCase_eq_iff {left right : String} :
    snakeCase left = snakeCase right ↔ lowerWords left = lowerWords right :=
  joinWords_lowerWords_eq_iff '_' ⟨by decide, by decide⟩

/-- The characters of a name in snake case are underscores, or have what lower case keeps of letters and
numbers. -/
theorem mem_snakeCase
    {holds : Char → Prop}
    (finalSigma : holds 'ς')
    (keeps : ∀ char, holds char → ∀ lower ∈ lowercase char, holds lower)
    (letters : ∀ char, isAlphanumeric char = true → holds char)
    {name : String}
    {char : Char}
    (member : char ∈ (snakeCase name).toList) :
    char = '_' ∨ holds char := by
  refine (mem_joinWords member).imp List.mem_singleton.mp ?_
  rintro ⟨word, isWord, within⟩
  exact forall_mem_lowerWord finalSigma keeps
    (fun source inWord => letters source (mem_of_mem_words isWord inWord).2) char within

/-- No mark but the underscore stands in a name in snake case. -/
theorem mark_not_mem_snakeCase
    {mark : Char}
    (isMark : mark.toNat < 0x80 ∧ isAlphanumeric mark = false)
    (other : mark ≠ '_')
    (name : String) :
    mark ∉ (snakeCase name).toList := by
  intro member
  rcases mem_snakeCase (by decide) (fun _ => plain_lowercase) (fun _ letter _ => letter) member
    with underscore | plain
  · exact other underscore
  · have letter := plain isMark.1
    rw [isMark.2] at letter
    cases letter

/-- No blank stands in a name in snake case. -/
theorem not_isBlank_of_mem_snakeCase
    {name : String}
    {char : Char}
    (member : char ∈ (snakeCase name).toList) :
    isBlank char = false := by
  rcases mem_snakeCase (by decide) (fun _ => not_isBlank_lowercase)
    (fun _ => not_isBlank_of_isAlphanumeric) member with rfl | noBlank
  · decide
  · exact noBlank

end Scaffold.Text
