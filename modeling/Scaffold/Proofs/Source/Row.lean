import Scaffold.Proofs.Source.Printed
import Scaffold.Source.Tree.Tokens

/-!
Contract: rows of tokens put together, and their texts with them.

Owns:
- delimiters and comments across the border of two rows;
- rows separated by commas;
- the text that may be pasted behind the text of another row.

Does not own: the compact text of one row.
-/

namespace Scaffold.Source

open Scaffold.Text

/-! ### Putting rows together -/

namespace Token

theorem openBehind_append (pending : List Delimiter) (row rest : List Token) :
    openBehind pending (row ++ rest)
      = (openBehind pending row).bind fun behind => openBehind behind rest := by
  induction row generalizing pending with
  | nil => rfl
  | cons token row inductionHypothesis =>
      cases token with
      | word | mark | literal | opening => exact inductionHypothesis _
      | closing delimiter =>
          cases pending with
          | nil => rfl
          | cons innermost outer =>
              rw [List.cons_append, openBehind, openBehind]
              split
              · exact inductionHypothesis outer
              · rfl

theorem openBehind_frame
    {pending behind : List Delimiter}
    {row : List Token}
    (closes : openBehind pending row = some behind)
    (outer : List Delimiter) :
    openBehind (pending ++ outer) row = some (behind ++ outer) := by
  induction row generalizing pending with
  | nil =>
      cases closes
      rfl
  | cons token row inductionHypothesis =>
      cases token with
      | word | mark | literal => exact inductionHypothesis closes
      | opening delimiter =>
          have closes : openBehind (delimiter :: pending) row = some behind := closes
          exact inductionHypothesis closes
      | closing delimiter =>
          cases pending with
          | nil => contradiction
          | cons innermost pending =>
              obtain ⟨same, closes⟩ := Option.ite_none_right_eq_some.mp closes
              exact (if_pos same).trans (inductionHypothesis closes)

/-- A balanced row changes nothing about what is open. -/
theorem openBehind_of_balanced
    {row : List Token}
    (balanced : openBehind [] row = some [])
    (pending : List Delimiter)
    (rest : List Token) :
    openBehind pending (row ++ rest) = openBehind pending rest := by
  have framed := openBehind_frame balanced pending
  rw [openBehind_append, show openBehind pending row = some pending from framed, Option.bind_some]

/-- Is the token a mark that makes a comment with a slash in front of it? -/
def makesComment : Token → Bool
  | .mark char _ => char == '/' || char == '*'
  | _ => false

theorem runsOn_of_runsInto {left right : Token} (runs : left.runsInto right = true) :
    left.runsOn = true := by
  cases left with
  | word | literal | opening | closing => contradiction
  | mark char spacing =>
      cases right with
      | mark => exact runs
      | word | literal | opening | closing =>
          rw [runsOn, Bool.or_eq_true]
          exact .inl runs

theorem fits_of_not_makesComment
    {left right : Token}
    (stays : left.runsOn = false)
    (noComment : right.makesComment = false) :
    left.fits right = true := by
  unfold fits
  split
  · rfl
  · contradiction
  · next char spacing => simpa [makesComment] using noComment
  · rfl

theorem fitTogether_append
    {row rest : List Token}
    (fit : fitTogether row = true)
    (fitRest : fitTogether rest = true)
    (noComment : ∀ first ∈ rest.head?, first.makesComment = false) :
    fitTogether (row ++ rest) = true := by
  induction row with
  | nil => exact fitRest
  | cons token row inductionHypothesis =>
      cases row with
      | nil =>
          cases rest with
          | nil => exact fit
          | cons first rest =>
              have stays : token.runsOn = false := by simpa [fitTogether] using fit
              rw [List.singleton_append, fitTogether, fitRest, Bool.and_true]
              exact fits_of_not_makesComment stays (noComment first rfl)
      | cons next row =>
          rw [fitTogether, Bool.and_eq_true] at fit
          rw [List.cons_append, List.cons_append, fitTogether, fit.1, Bool.true_and]
          exact inductionHypothesis fit.2

theorem IsRow.nil : IsRow [] :=
  ⟨by simp, by simp, rfl, rfl⟩

theorem IsRow.append
    {row rest : List Token}
    (isRow : IsRow row)
    (isRowRest : IsRow rest)
    (noComment : ∀ first ∈ rest.head?, first.makesComment = false) :
    IsRow (row ++ rest) := by
  refine ⟨?_, ?_, fitTogether_append isRow.fit isRowRest.fit noComment, ?_⟩
  · intro token member
    rcases List.mem_append.mp member with front | back
    · exact isRow.spelled token front
    · exact isRowRest.spelled token back
  · intro token member
    rcases List.mem_append.mp member with front | back
    · exact isRow.quiet token front
    · exact isRowRest.quiet token back
  · rw [openBehind_of_balanced isRow.balanced, isRowRest.balanced]


/-! ### Rows with commas between them -/

theorem IsRow.comma : IsRow (marks ",") :=
  ⟨by decide, by decide, by decide, by decide⟩

theorem IsRow.behindComma {row : List Token} (isRow : IsRow row) : IsRow (marks "," ++ row) := by
  refine ⟨?_, ?_, ?_, isRow.balanced⟩
  · exact List.forall_mem_append.mpr ⟨IsRow.comma.spelled, isRow.spelled⟩
  · exact List.forall_mem_append.mpr ⟨IsRow.comma.quiet, isRow.quiet⟩
  · cases row with
    | nil => exact IsRow.comma.fit
    | cons first rest =>
        show (fits (.mark ',' .alone) first && fitTogether (first :: rest)) = true
        rw [isRow.fit, Bool.and_true]
        rfl

end Token

namespace Spelling

theorem commaSeparated_singleton (row : List Token) (trailing : Bool) :
    commaSeparated [row] trailing = row ++ marksIf trailing "," := by
  rw [commaSeparated, separated, List.intersperse_singleton, List.flatten_singleton]

theorem commaSeparated_cons_cons
    (row next : List Token)
    (rest : List (List Token))
    (trailing : Bool) :
    commaSeparated (row :: next :: rest) trailing
      = row ++ (Token.marks "," ++ commaSeparated (next :: rest) trailing) := by
  rw [commaSeparated, separated, List.intersperse_cons_cons, List.flatten_cons, List.flatten_cons,
    List.append_assoc, List.append_assoc]
  rfl

theorem isRow_commaSeparated
    {rows : List (List Token)}
    (isRow : ∀ row ∈ rows, Token.IsRow row)
    (trailing : Bool) :
    Token.IsRow (commaSeparated rows trailing) := by
  have ending : Token.IsRow (marksIf trailing ",") := by
    cases trailing with
    | false => exact .nil
    | true => exact .comma
  induction rows with
  | nil => exact ending
  | cons row rows inductionHypothesis =>
      have rest := inductionHypothesis fun other member => isRow other (List.mem_cons_of_mem _ member)
      cases rows with
      | nil =>
          rw [commaSeparated_singleton]
          apply (isRow row List.mem_cons_self).append ending
          cases trailing <;> simp [marksIf, Token.marks, Token.marksOf, Token.makesComment]
      | cons next rows =>
          rw [commaSeparated_cons_cons]
          apply (isRow row List.mem_cons_self).append rest.behindComma
          rintro _ ⟨⟩
          rfl

end Spelling

/-! ### Texts of rows -/

namespace Spaced

theorem text_append (front back : List Spaced) : text (front ++ back) = text front ++ text back :=
  List.flatMap_append

/-- May the tokens stand right behind any others? -/
def Pasteable (spaced : List Spaced) : Prop :=
  ∀ first ∈ spaced.head?,
    first.token.makesComment = false ∧ (first.gap = [] → first.token.opensAhead = true)

theorem Legible.append
    {front back : List Spaced}
    (legible : Legible front)
    (legibleBack : Legible back)
    (pasteable : Pasteable back) :
    Legible (front ++ back) := by
  induction front with
  | nil => exact legibleBack
  | cons part rest inductionHypothesis =>
      obtain ⟨blank, spelled, follows, legible⟩ := legible
      refine ⟨blank, spelled, ?_, inductionHypothesis legible⟩
      cases rest with
      | cons next rest => exact follows
      | nil =>
          cases back with
          | nil => exact follows
          | cons first back =>
              obtain ⟨noComment, touch⟩ := pasteable first rfl
              have stays : part.token.runsOn = false := follows
              refine ⟨Token.fits_of_not_makesComment stays noComment, ?_, ?_⟩
              · intro noGap
                rw [Token.mayTouch, touch noGap, Bool.or_true]
              · intro runs
                rw [Token.runsOn_of_runsInto runs] at stays
                contradiction

end Spaced

namespace Token

/-- The text is legible as the row. -/
def Spells (row : List Token) (text : List Char) : Prop :=
  ∃ spaced, Spaced.text spaced = text ∧ spaced.map Spaced.token = row ∧ Spaced.Legible spaced

/-- The text is legible as the row, right behind any other text as well. -/
def Pastes (row : List Token) (text : List Char) : Prop :=
  ∃ spaced, Spaced.text spaced = text ∧ spaced.map Spaced.token = row ∧ Spaced.Legible spaced
    ∧ Spaced.Pasteable spaced

variable {row rest : List Token} {text behind : List Char}

theorem Pastes.spells (pastes : Pastes row text) : Spells row text := by
  obtain ⟨spaced, spelled, same, legible, -⟩ := pastes
  exact ⟨spaced, spelled, same, legible⟩

theorem Spells.append (spells : Spells row text) (pastes : Pastes rest behind) :
    Spells (row ++ rest) (text ++ behind) := by
  obtain ⟨front, rfl, rfl, legible⟩ := spells
  obtain ⟨back, rfl, rfl, legibleBack, pasteable⟩ := pastes
  exact ⟨front ++ back, Spaced.text_append front back, List.map_append,
    legible.append legibleBack pasteable⟩

theorem Pastes.append (pastes : Pastes row text) (pastesRest : Pastes rest behind) :
    Pastes (row ++ rest) (text ++ behind) := by
  obtain ⟨front, rfl, rfl, legible, pasteable⟩ := pastes
  obtain ⟨back, rfl, rfl, legibleBack, pasteableBack⟩ := pastesRest
  refine ⟨front ++ back, Spaced.text_append front back, List.map_append,
    legible.append legibleBack pasteableBack, ?_⟩
  cases front with
  | nil => exact pasteableBack
  | cons part front => exact pasteable

theorem Pastes.nil : Pastes [] [] :=
  ⟨[], rfl, rfl, trivial, by rintro _ ⟨⟩⟩

/-- Text that begins with such a token may be pasted. -/
theorem Spells.pastes
    (spells : Spells row text)
    (opens : ∀ first ∈ row.head?, first.makesComment = false ∧ first.opensAhead = true) :
    Pastes row text := by
  obtain ⟨spaced, rfl, rfl, legible⟩ := spells
  refine ⟨spaced, rfl, rfl, legible, ?_⟩
  intro first member
  have found : first.token ∈ (spaced.map Spaced.token).head? := by
    rw [List.head?_map]
    exact Option.mem_map_of_mem _ member
  obtain ⟨noComment, touch⟩ := opens _ found
  exact ⟨noComment, fun _ => touch⟩

/-- Text behind a blank may be pasted. -/
theorem Spells.behindBlank
    (spells : Spells row text)
    (something : row ≠ [])
    (noComment : ∀ first ∈ row.head?, first.makesComment = false) :
    Pastes row (' ' :: text) := by
  obtain ⟨spaced, rfl, rfl, legible⟩ := spells
  cases spaced with
  | nil => contradiction
  | cons part rest =>
      obtain ⟨gap, token⟩ := part
      obtain ⟨blank, legible⟩ := legible
      refine ⟨⟨' ' :: gap, token⟩ :: rest, ?_, rfl, ⟨?_, legible⟩, ?_⟩
      · rw [Spaced.text_cons, Spaced.text_cons, List.cons_append]
      · exact List.forall_mem_cons.mpr ⟨by decide, blank⟩
      · rintro _ ⟨⟩
        exact ⟨noComment token rfl, fun noGap => by contradiction⟩

theorem spells_singleton
    (token : Token)
    (spelled : token.isSpelled = true)
    (stays : token.runsOn = false) :
    Spells [token] token.characters :=
  ⟨[⟨[], token⟩], by simp, rfl, by simp, spelled, stays, trivial⟩

/-- A token that any other may follow stands in front of a text, with a blank between them. -/
theorem Spells.cons_blank
    (token : Token)
    (spells : Spells row text)
    (something : row ≠ [])
    (spelled : token.isSpelled = true)
    (stays : token.runsOn = false)
    (fits : ∀ right, token.fits right = true) :
    Spells (token :: row) (token.characters ++ ' ' :: text) := by
  obtain ⟨spaced, rfl, rfl, legible⟩ := spells
  cases spaced with
  | nil => contradiction
  | cons part rest =>
      obtain ⟨gap, next⟩ := part
      obtain ⟨blank, legible⟩ := legible
      refine ⟨⟨[], token⟩ :: ⟨' ' :: gap, next⟩ :: rest, ?_, rfl, by simp, spelled, ?_,
        List.forall_mem_cons.mpr ⟨by decide, blank⟩, legible⟩
      · rw [Spaced.text_cons, Spaced.text_cons, Spaced.text_cons, List.nil_append, List.cons_append]
      · refine ⟨fits next, fun noGap => by contradiction, fun runs => ?_⟩
        rw [runsOn_of_runsInto runs] at stays
        contradiction

/-- A token that any other may touch stands right in front of a text. -/
theorem Spells.cons_touching
    (token : Token)
    (spells : Spells row text)
    (spelled : token.isSpelled = true)
    (stays : token.runsOn = false)
    (fits : ∀ right, token.fits right = true)
    (opens : token.opensBehind = true) :
    Spells (token :: row) (token.characters ++ text) := by
  obtain ⟨spaced, rfl, rfl, legible⟩ := spells
  refine ⟨⟨[], token⟩ :: spaced, ?_, rfl, by simp, spelled, ?_, legible⟩
  · rw [Spaced.text_cons, List.nil_append]
  · cases spaced with
    | nil => exact stays
    | cons next rest =>
        refine ⟨fits next.token, fun _ => ?_, fun runs => ?_⟩
        · rw [mayTouch, opens, Bool.true_or]
        · rw [runsOn_of_runsInto runs] at stays
          contradiction

/-- An arrow stands between two blanks. -/
theorem Spells.behindArrow (spells : Spells row text) (something : row ≠ []) :
    Pastes (marks "->" ++ row) (" -> ".toList ++ text) := by
  obtain ⟨spaced, rfl, rfl, legible⟩ := spells
  cases spaced with
  | nil => contradiction
  | cons part rest =>
      obtain ⟨gap, next⟩ := part
      obtain ⟨blank, legible⟩ := legible
      refine ⟨⟨[' '], .mark '-' .joint⟩ :: ⟨[], .mark '>' .alone⟩ :: ⟨' ' :: gap, next⟩ :: rest, ?_, rfl,
        ⟨by simp [Scan.isGap, Text.isBlank], by decide, ?_, by simp, by decide, ?_,
          List.forall_mem_cons.mpr ⟨by decide, blank⟩, legible⟩, ?_⟩
      · rw [Spaced.text_cons, Spaced.text_cons, Spaced.text_cons, Spaced.text_cons]
        rfl
      · exact ⟨rfl, fun _ => rfl, fun _ => rfl⟩
      · refine ⟨by cases next <;> rfl, fun noGap => by contradiction, fun runs => ?_⟩
        have stays := runsOn_of_runsInto runs
        contradiction
      · rintro _ ⟨⟩
        exact ⟨rfl, fun noGap => by contradiction⟩

theorem IsRow.spells (isRow : IsRow row) : Spells row (Text.compact (textOf row)).toList := by
  obtain ⟨spaced, spelled, same, closed⟩ := Spaced.exists_compact isRow
  exact ⟨spaced, spelled.symm, same, closed.legible⟩

end Token

end Scaffold.Source
