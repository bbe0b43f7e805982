import Scaffold.Proofs.Text.LetterCase
import Scaffold.Text.Words

/-!
Contract: the characters of a name in another spelling.

Owns:
- the characters of the words of a name;
- the characters of the spellings that are made from them.

Does not own: whether a spelling is an identifier, which may begin with a digit.
-/

namespace Scaffold.Text

/-! ### Words -/

theorem mem_of_mem_wordsFrom
    {mode : CaseMode}
    {current text word : List Char}
    (member : word ∈ wordsFrom mode current text)
    {char : Char}
    (within : char ∈ word) :
    char ∈ current ∨ char ∈ text := by
  fun_induction wordsFrom mode current text with
  | case1 => contradiction
  | case2 mode current last =>
      rw [List.mem_singleton.mp member] at within
      simpa [or_comm] using within
  | case3 mode current first next rest following ends inductionHypothesis =>
      rcases List.mem_cons.mp member with rfl | later
      · grind
      · have behind := inductionHypothesis later
        grind
  | case4 mode current first next rest following ends starts inductionHypothesis =>
      rcases List.mem_cons.mp member with rfl | later
      · grind
      · have behind := inductionHypothesis later
        grind
  | case5 mode current first next rest following ends starts inductionHypothesis =>
      have behind := inductionHypothesis member
      grind

theorem mem_of_mem_alphanumericRuns
    {text run : List Char}
    (member : run ∈ alphanumericRuns text)
    {char : Char}
    (within : char ∈ run) :
    char ∈ text ∧ isAlphanumeric char = true := by
  induction text generalizing run with
  | nil =>
      rw [List.mem_singleton.mp member] at within
      contradiction
  | cons first text inductionHypothesis =>
      rw [alphanumericRuns] at member
      split at member
      · rw [List.mem_singleton.mp member] at within
        contradiction
      · next front runs split =>
          have ofRun {run : List Char} (member : run ∈ front :: runs) (within : char ∈ run) :
              char ∈ first :: text ∧ isAlphanumeric char = true := by
            obtain ⟨inText, letter⟩ := inductionHypothesis (split ▸ member) within
            exact ⟨List.mem_cons_of_mem _ inText, letter⟩
          split at member
          · next letter =>
              rcases List.mem_cons.mp member with rfl | later
              · rcases List.mem_cons.mp within with rfl | inFront
                · exact ⟨List.mem_cons_self, letter⟩
                · exact ofRun List.mem_cons_self inFront
              · exact ofRun (List.mem_cons_of_mem _ later) within
          · rcases List.mem_cons.mp member with rfl | later
            · contradiction
            · exact ofRun later within

theorem mem_of_mem_words
    {name : String}
    {word : List Char}
    (member : word ∈ words name)
    {char : Char}
    (within : char ∈ word) :
    char ∈ name.toList ∧ isAlphanumeric char = true := by
  obtain ⟨run, runMember, member⟩ := List.mem_flatMap.mp member
  rcases mem_of_mem_wordsFrom member within with none | inRun
  · contradiction
  · exact mem_of_mem_alphanumericRuns runMember inRun

/-! ### Spellings -/

/-- The letters and numbers of a text may all stand in an identifier. -/
def HasIdentifierLetters (name : String) : Prop :=
  ∀ char ∈ name.toList, isAlphanumeric char = true → continuesIdentifier char = true

/-- What lower case keeps of a character, and what holds of a final sigma, is kept of a word. -/
theorem forall_mem_lowerWord
    {holds : Char → Prop}
    (finalSigma : holds 'ς')
    (keeps : ∀ char, holds char → ∀ lower ∈ lowercase char, holds lower)
    {word : List Char}
    (all : ∀ char ∈ word, holds char) :
    ∀ char ∈ lowerWord word, holds char := by
  fun_induction lowerWord word with
  | case1 => exact all
  | case2 => simpa using finalSigma
  | case3 last _ => exact keeps last (all last List.mem_cons_self)
  | case4 first rest _ inductionHypothesis =>
      obtain ⟨here, behind⟩ := List.forall_mem_cons.mp all
      exact List.forall_mem_append.mpr ⟨keeps first here, inductionHypothesis behind⟩

theorem continues_lowerWord
    {word : List Char}
    (continues : ∀ char ∈ word, continuesIdentifier char = true) :
    ∀ char ∈ lowerWord word, continuesIdentifier char = true :=
  forall_mem_lowerWord (by decide) (fun _ => continues_lowercase) continues

theorem continues_upperWord
    {word : List Char}
    (continues : ∀ char ∈ word, continuesIdentifier char = true) :
    ∀ char ∈ upperWord word, continuesIdentifier char = true := by
  intro char member
  obtain ⟨source, inWord, member⟩ := List.mem_flatMap.mp member
  exact continues_uppercase (continues source inWord) char member

theorem continues_capitalWord
    {word : List Char}
    (continues : ∀ char ∈ word, continuesIdentifier char = true) :
    ∀ char ∈ capitalWord word, continuesIdentifier char = true := by
  cases word with
  | nil => exact continues
  | cons first rest =>
      intro char member
      rcases List.mem_append.mp member with inFirst | inRest
      · exact continues_uppercase (continues first List.mem_cons_self) char inFirst
      · exact continues_lowerWord (fun other inRest => continues other (List.mem_cons_of_mem _ inRest))
          char inRest

theorem mem_of_mem_intersperse
    {α : Type}
    {separator element : α}
    {elements : List α}
    (member : element ∈ elements.intersperse separator) :
    element ∈ elements ∨ element = separator := by
  induction elements using List.intersperse.induct with
  | case1 => contradiction
  | case2 single => exact .inl member
  | case3 first second rest inductionHypothesis =>
      simp only [List.intersperse, List.mem_cons] at member inductionHypothesis ⊢
      grind

theorem mem_of_mem_intercalate
    {separator : List Char}
    {parts : List (List Char)}
    {char : Char}
    (member : char ∈ separator.intercalate parts) :
    char ∈ separator ∨ ∃ part ∈ parts, char ∈ part := by
  obtain ⟨piece, isPiece, within⟩ := List.mem_flatten.mp member
  rcases mem_of_mem_intersperse isPiece with isPart | rfl
  · exact .inr ⟨piece, isPart, within⟩
  · exact .inl within

/-- The characters of the words of a name in another spelling, and of what is put between them. -/
theorem mem_joinWords
    {name separator : String}
    {respell : List Char → List Char}
    {char : Char}
    (member : char ∈ (joinWords separator ((words name).map respell)).toList) :
    char ∈ separator.toList ∨ ∃ word ∈ words name, char ∈ respell word := by
  rw [joinWords, String.toList_intercalate] at member
  refine (mem_of_mem_intercalate member).imp_right ?_
  rintro ⟨part, isPart, within⟩
  simp only [List.map_map, List.mem_map, Function.comp_apply, String.toList_ofList] at isPart
  obtain ⟨word, isWord, rfl⟩ := isPart
  exact ⟨word, isWord, within⟩

theorem mem_separator_or_continues
    {name separator : String}
    {respell : List Char → List Char}
    (letters : HasIdentifierLetters name)
    (keeps : ∀ word, (∀ char ∈ word, continuesIdentifier char = true) →
      ∀ char ∈ respell word, continuesIdentifier char = true)
    {char : Char}
    (member : char ∈ (joinWords separator ((words name).map respell)).toList) :
    char ∈ separator.toList ∨ continuesIdentifier char = true := by
  refine (mem_joinWords member).imp_right ?_
  rintro ⟨word, isWord, within⟩
  refine keeps word (fun other inWord => ?_) char within
  obtain ⟨inName, letter⟩ := mem_of_mem_words isWord inWord
  exact letters other inName letter

theorem continues_snakeCase
    {name : String}
    (letters : HasIdentifierLetters name) :
    ∀ char ∈ (snakeCase name).toList, continuesIdentifier char = true := by
  intro char member
  rcases mem_separator_or_continues letters (fun _ => continues_lowerWord) member with isMark | letter
  · rw [List.mem_singleton.mp isMark]
    decide
  · exact letter

theorem continues_shoutySnakeCase
    {name : String}
    (letters : HasIdentifierLetters name) :
    ∀ char ∈ (shoutySnakeCase name).toList, continuesIdentifier char = true := by
  intro char member
  rcases mem_separator_or_continues letters (fun _ => continues_upperWord) member with isMark | letter
  · rw [List.mem_singleton.mp isMark]
    decide
  · exact letter

theorem continues_pascalCase
    {name : String}
    (letters : HasIdentifierLetters name) :
    ∀ char ∈ (pascalCase name).toList, continuesIdentifier char = true := by
  intro char member
  rcases mem_separator_or_continues letters (fun _ => continues_capitalWord) member with isMark | letter
  · cases isMark
  · exact letter

theorem mem_kebabCase
    {name : String}
    (letters : HasIdentifierLetters name) :
    ∀ char ∈ (kebabCase name).toList, char = '-' ∨ continuesIdentifier char = true := by
  intro char member
  exact (mem_separator_or_continues letters (fun _ => continues_lowerWord) member).imp_left
    List.mem_singleton.mp

end Scaffold.Text
