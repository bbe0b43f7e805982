import Scaffold.Text.Letters
import Scaffold.Text.LetterCase

/-!
Contract: the words of a name, and the spellings of a name made from its words.

Owns:
- the cut of a name into words at separators and at changes of case;
- the spellings in snake, kebab, shouty snake and Pascal case.

A word ends before an upper case letter that follows a lower case one, and before the last
of a run of upper case letters that a lower case letter follows (`HTTPServer` has the words
`HTTP` and `Server`). Characters without case take the case of the letter before them.
-/

namespace Scaffold.Text

/-- The case of the last letter of the word so far that has one. -/
inductive CaseMode where
  | none
  | lower
  | upper
  deriving DecidableEq, Repr

/-- The mode after one more character. -/
def CaseMode.after
    (mode : CaseMode)
    (char : Char) :
    CaseMode :=
  if isLowercase char then .lower
  else if isUppercase char then .upper
  else mode

/-- The words of a run of letters and numbers. `current` holds the characters of the word
being read, last one first. -/
def wordsFrom
    (mode : CaseMode)
    (current : List Char) :
    List Char → List (List Char)
  | [] => []
  | [last] => [(last :: current).reverse]
  | char :: next :: rest =>
      let following := mode.after char
      if following = .lower ∧ isUppercase next then
        (char :: current).reverse :: wordsFrom .none [] (next :: rest)
      else if mode = .upper ∧ isUppercase char ∧ isLowercase next then
        current.reverse :: wordsFrom .none [char] (next :: rest)
      else
        wordsFrom following (char :: current) (next :: rest)

/-- The runs of letters and numbers of a text, empty ones included. -/
def alphanumericRuns : List Char → List (List Char)
  | [] => [[]]
  | char :: rest =>
      match alphanumericRuns rest with
      | [] => [[]]
      | run :: runs =>
          if isAlphanumeric char then (char :: run) :: runs else [] :: run :: runs

/-- The words of a name, in order. -/
def words (name : String) : List (List Char) :=
  (alphanumericRuns name.toList).flatMap (wordsFrom .none [])

/-- A word in lower case; a capital sigma that ends the word becomes a final one. -/
def lowerWord : List Char → List Char
  | [] => []
  | [last] => if last = 'Σ' then ['ς'] else lowercase last
  | char :: rest => lowercase char ++ lowerWord rest

/-- A word in upper case. -/
def upperWord (word : List Char) : List Char :=
  word.flatMap uppercase

/-- A word with its first character in upper case and the others in lower case. -/
def capitalWord : List Char → List Char
  | [] => []
  | char :: rest => uppercase char ++ lowerWord rest

/-- Words joined by a separator. -/
def joinWords
    (separator : String)
    (parts : List (List Char)) :
    String :=
  String.intercalate separator (parts.map String.ofList)

/-- `lower_case_words` joined by underscores. -/
def snakeCase (name : String) : String :=
  joinWords "_" ((words name).map lowerWord)

/-- `lower-case-words` joined by hyphens. -/
def kebabCase (name : String) : String :=
  joinWords "-" ((words name).map lowerWord)

/-- `UPPER_CASE_WORDS` joined by underscores. -/
def shoutySnakeCase (name : String) : String :=
  joinWords "_" ((words name).map upperWord)

/-- `CapitalWords` without a separator. -/
def pascalCase (name : String) : String :=
  joinWords "" ((words name).map capitalWord)

end Scaffold.Text
