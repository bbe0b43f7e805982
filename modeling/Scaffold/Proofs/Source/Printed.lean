import Scaffold.Proofs.Source.Closer

/-!
Contract: the printed text of a row of tokens, and its compact text.

Owns:
- the blanks that a row is printed with;
- the rows that printing and scanning keep;
- the tokens of the compact text of such a row.
-/

namespace Scaffold.Source

open Scaffold.Text

/-! ### Printed rows -/

namespace Token

/-- What stands in front of the token that is printed next behind this one. -/
def behind : Token → Before
  | .mark _ .joint => .joinedMark
  | .opening delimiter => .opened delimiter
  | _ => .token

/-- The blank that is printed in front of a token. -/
def gapIn (before : Before) : Token → List Char
  | .closing delimiter =>
      if before = .opened .brace then [' ']
      else if before = .opened .parenthesis ∨ before = .opened .bracket then []
      else if delimiter = .brace then [' ']
      else []
  | _ => if before = .token ∨ before = .opened .brace then [' '] else []

/-- The blank that is printed behind an opening brace. -/
def owed (before : Before) : List Char :=
  if before = .opened .brace then [' '] else []

/-- The blank at the end of a printed row. -/
def owedBehind (before : Before) : List Token → List Char
  | [] => owed before
  | token :: rest => owedBehind token.behind rest

end Token

namespace Spaced

/-- A row of tokens with the blanks that it is printed with. -/
def printed (before : Token.Before) : List Token → List Spaced
  | [] => []
  | token :: rest => ⟨token.gapIn before, token⟩ :: printed token.behind rest

theorem map_token_printed (before : Token.Before) (row : List Token) :
    (printed before row).map Spaced.token = row := by
  induction row generalizing before with
  | nil => rfl
  | cons token rest inductionHypothesis =>
      rw [printed, List.map_cons, inductionHypothesis]

theorem owed_append_gap (before : Token.Before) :
    Token.owed before ++ before.gap.toList
      = if before = .token ∨ before = .opened .brace then [' '] else [] := by
  rcases before with _ | _ | delimiter | _
  all_goals try cases delimiter
  all_goals rfl

theorem owed_append_closingGap (before : Token.Before) (delimiter : Delimiter) :
    Token.owed before ++ (before.closingGap delimiter).toList
      = Token.gapIn before (.closing delimiter) := by
  rcases before with _ | _ | opened | _
  all_goals try cases opened
  all_goals cases delimiter
  all_goals rfl

theorem owed_append_textFrom (before : Token.Before) (row : List Token) :
    Token.owed before ++ (Token.textFrom before row).toList
      = text (printed before row) ++ Token.owedBehind before row := by
  induction row generalizing before with
  | nil => simp [Token.textFrom, Token.owedBehind, printed]
  | cons token rest inductionHypothesis =>
      have behind := inductionHypothesis token.behind
      rw [printed, text_cons, List.append_assoc, List.append_assoc, Token.owedBehind, ← behind]
      cases token with
      | word name | literal name =>
          simp only [Token.textFrom, String.toList_append, List.append_assoc]
          rw [← List.append_assoc, owed_append_gap]
          rfl
      | mark char spacing =>
          simp only [Token.textFrom, String.toList_append, List.append_assoc]
          rw [← List.append_assoc, owed_append_gap, Char.toString_eq_singleton,
            String.toList_singleton]
          cases spacing <;> rfl
      | opening delimiter =>
          simp only [Token.textFrom, String.toList_append, List.append_assoc]
          rw [← List.append_assoc, owed_append_gap]
          cases delimiter <;> rfl
      | closing delimiter =>
          simp only [Token.textFrom, String.toList_append, List.append_assoc]
          rw [← List.append_assoc, owed_append_closingGap]
          rfl

/-- Tokens without the blanks in front of the first one. -/
def closeFirst : List Spaced → List Spaced
  | [] => []
  | part :: rest => ⟨[], part.token⟩ :: rest

theorem map_token_closeFirst (spaced : List Spaced) :
    (closeFirst spaced).map Spaced.token = spaced.map Spaced.token := by
  cases spaced <;> rfl

theorem gapIn_single (before : Token.Before) (token : Token) :
    token.gapIn before = [] ∨ token.gapIn before = [' '] := by
  cases token <;> unfold Token.gapIn <;> grind

theorem isBlank_of_mem_gapIn
    {before : Token.Before}
    {token : Token}
    {char : Char}
    (member : char ∈ token.gapIn before) :
    isBlank char = true := by
  rcases gapIn_single before token with none | one
  · rw [none] at member
    contradiction
  · rw [one, List.mem_singleton] at member
    rw [member]
    decide

theorem not_blank_of_not_gap {char : Char} (noGap : Scan.isGap char = false) :
    isBlank char = false := by
  rw [Scan.isGap, Bool.or_eq_false_iff, Bool.or_eq_false_iff] at noGap
  exact noGap.1.1

theorem not_blank_of_clings {char : Char} (clinging : clings char = true) :
    isBlank char = false := by
  apply not_blank_of_not_gap
  rw [Bool.eq_false_iff]
  intro gap
  rw [not_clings_of_stop (Scan.isStop_of_isGap gap)] at clinging
  contradiction

theorem clings_of_isWordChar {char : Char} (within : isWordChar char = true) :
    clings char = true := by
  rw [isWordChar, Bool.or_eq_true, Bool.or_eq_true, beq_iff_eq] at within
  rcases within with (continues | starts) | rfl
  · exact Literal.clings_of_continues continues
  · exact Literal.clings_of_startsWord starts
  · decide

theorem exists_first_of_token
    {token : Token}
    (spelled : token.isSpelled = true) :
    ∃ first tail, token.characters = first :: tail ∧ isBlank first = false := by
  cases token with
  | word name =>
      obtain ⟨first, tail, same, starts, -⟩ :=
        Scan.exists_start_of_isWord (Scan.ends_of_stops stops_nil) spelled
      exact ⟨first, tail, same, not_blank_of_clings (Literal.clings_of_startsWord starts)⟩
  | literal spelling =>
      obtain ⟨first, tail, same, starts⟩ := Scan.exists_start_of_literal (beq_iff_eq.mp spelled)
      have inside := Scan.not_stop_of_literalStart starts
      exact ⟨first, tail, same, not_blank_of_not_gap (Scan.not_stop_apart inside).1⟩
  | mark char spacing =>
      rw [Token.isSpelled, Bool.and_eq_true] at spelled
      have isMark := List.contains_iff_mem.mp spelled.1
      exact ⟨char, [], rfl, not_blank_of_not_gap (Scan.mark_apart isMark).1⟩
  | opening delimiter => cases delimiter <;> exact ⟨_, _, rfl, by decide⟩
  | closing delimiter => cases delimiter <;> exact ⟨_, _, rfl, by decide⟩

theorem exists_last_of_token
    {token : Token}
    (spelled : token.isSpelled = true)
    (quiet : token.isQuiet = true) :
    ∃ last init, token.characters.reverse = last :: init ∧ isBlank last = false := by
  cases token with
  | word name =>
      obtain ⟨first, tail, same, -⟩ := exists_first_of_token spelled
      obtain ⟨last, init, reversed⟩ : ∃ last init, name.toList.reverse = last :: init :=
        List.exists_cons_of_ne_nil (by
          rw [Token.characters] at same
          rw [same]
          simp)
      have member : last ∈ name.toList := by
        rw [← List.mem_reverse, reversed]
        exact List.mem_cons_self
      exact ⟨last, init, reversed,
        not_blank_of_clings (clings_of_isWordChar (isWordChar_of_isWord spelled last member))⟩
  | literal spelling =>
      obtain ⟨last, init, reversed, solid, -⟩ := last_of_isQuietFrom quiet
      rw [List.append_nil] at reversed
      exact ⟨last, init, reversed, solid⟩
  | mark char spacing =>
      obtain ⟨first, tail, same, solid⟩ := exists_first_of_token spelled
      obtain ⟨rfl, rfl⟩ := List.cons.inj same
      exact ⟨char, [], rfl, solid⟩
  | opening delimiter => cases delimiter <;> exact ⟨_, _, rfl, by decide⟩
  | closing delimiter => cases delimiter <;> exact ⟨_, _, rfl, by decide⟩

theorem exists_last_of_text
    {part : Spaced}
    {rest : List Spaced}
    (spelled : ∀ other ∈ part :: rest,
      other.token.isSpelled = true ∧ other.token.isQuiet = true) :
    ∃ last init, (text (part :: rest)).reverse = last :: init ∧ isBlank last = false := by
  induction rest generalizing part with
  | nil =>
      obtain ⟨spelledPart, quiet⟩ := spelled part List.mem_cons_self
      obtain ⟨last, init, reversed, solid⟩ := exists_last_of_token spelledPart quiet
      refine ⟨last, init ++ part.gap.reverse, ?_, solid⟩
      rw [text_cons, text_nil, List.append_nil, List.reverse_append, reversed, List.cons_append]
  | cons next rest inductionHypothesis =>
      obtain ⟨last, init, reversed, solid⟩ := inductionHypothesis
        fun other member => spelled other (List.mem_cons_of_mem _ member)
      refine ⟨last, init ++ (part.gap ++ part.token.characters).reverse, ?_, solid⟩
      rw [text_cons, ← List.append_assoc, List.reverse_append, reversed, List.cons_append]

theorem dropWhile_isBlank_append
    {gap text : List Char}
    {first : Char}
    {tail : List Char}
    (blank : ∀ char ∈ gap, isBlank char = true)
    (begins : text = first :: tail)
    (solid : isBlank first = false) :
    (gap ++ text).dropWhile isBlank = text := by
  rw [List.dropWhile_append_of_pos blank, begins, List.dropWhile_cons_of_neg]
  rw [solid]
  exact Bool.false_ne_true

theorem trimChars_text
    {spaced : List Spaced}
    {trailing : List Char}
    (spelled : ∀ part ∈ spaced, part.token.isSpelled = true ∧ part.token.isQuiet = true)
    (blank : ∀ part ∈ spaced, ∀ char ∈ part.gap, isBlank char = true)
    (blankBehind : ∀ char ∈ trailing, isBlank char = true) :
    trimChars (text spaced ++ trailing) = text (closeFirst spaced) := by
  cases spaced with
  | nil =>
      rw [text_nil, List.nil_append, trimChars, List.dropWhile_eq_nil_iff.mpr blankBehind]
      rfl
  | cons part rest =>
      obtain ⟨first, tail, begins, solid⟩ :=
        exists_first_of_token (spelled part List.mem_cons_self).1
      have front : (part.gap ++ (text (closeFirst (part :: rest)) ++ trailing)).dropWhile isBlank
          = text (closeFirst (part :: rest)) ++ trailing := by
        apply dropWhile_isBlank_append (blank part List.mem_cons_self) _ solid
        · exact tail ++ text rest ++ trailing
        · rw [closeFirst, text_cons, List.nil_append, begins]
          simp
      have ends : ∀ other ∈ ⟨[], part.token⟩ :: rest,
          other.token.isSpelled = true ∧ other.token.isQuiet = true := by
        intro other member
        rcases List.mem_cons.mp member with rfl | member
        · exact spelled part List.mem_cons_self
        · exact spelled other (List.mem_cons_of_mem _ member)
      obtain ⟨last, init, reversed, solidEnd⟩ := exists_last_of_text ends
      have back : (trailing.reverse ++ (text (closeFirst (part :: rest))).reverse).dropWhile isBlank
          = (text (closeFirst (part :: rest))).reverse := by
        refine dropWhile_isBlank_append ?_ reversed solidEnd
        intro char member
        exact blankBehind char (List.mem_reverse.mp member)
      have whole : text (part :: rest) ++ trailing
          = part.gap ++ (text (closeFirst (part :: rest)) ++ trailing) := by
        rw [closeFirst, text_cons, text_cons, List.nil_append, List.append_assoc]
      rw [trimChars, whole, front, List.reverse_append, back, List.reverse_reverse]

end Spaced

/-! ### Compact rows -/

namespace Token

/-- Do the tokens of a row fit behind each other? No token at the end of a row runs into
another one. -/
def fitTogether : List Token → Bool
  | [] => true
  | [last] => !last.runsOn
  | left :: right :: rest => left.fits right && fitTogether (right :: rest)

/-- A row of tokens as text is scanned to, with its delimiters in balance, whose literals hold
nothing that replacements take away. -/
structure IsRow (row : List Token) : Prop where
  spelled : ∀ token ∈ row, token.isSpelled = true
  quiet : ∀ token ∈ row, token.isQuiet = true
  fit : fitTogether row = true
  balanced : openBehind [] row = some []

end Token

namespace Spaced

/-- Tokens as replacements leave them: at most one blank in front of each, and none in front of
the first. -/
structure Closed (spaced : List Spaced) : Prop where
  legible : Legible spaced
  quiet : ∀ part ∈ spaced, part.token.isQuiet = true
  single : ∀ part ∈ spaced, part.gap = [] ∨ part.gap = [' ']
  first : ∀ part ∈ spaced.head?, part.gap = []

theorem Closed.sheds
    {spaced : List Spaced}
    {shorter : List Char}
    (closed : Closed spaced)
    (sheds : Sheds [] (text spaced) shorter) :
    ∃ closer, shorter = text closer ∧ closer.map Spaced.token = spaced.map Spaced.token
      ∧ Closed closer := by
  cases spaced with
  | nil =>
      cases sheds
      exact ⟨[], rfl, rfl, closed⟩
  | cons part rest =>
      obtain ⟨gap, token⟩ := part
      obtain ⟨⟨blank, spelled, follows, legible⟩, quiet, single, first⟩ := closed
      obtain rfl : gap = [] := first _ rfl
      have quietToken := quiet _ List.mem_cons_self
      have quietRest : ∀ part ∈ rest, part.token.isQuiet = true :=
        fun part member => quiet part (List.mem_cons_of_mem _ member)
      rw [text_cons, List.nil_append] at sheds
      obtain ⟨behind, rfl, shedsRest⟩ := exists_behind_of_token spelled quietToken sheds
      obtain ⟨closer, rfl, same, followsCloser, legibleCloser, singleCloser⟩ :=
        exists_closer spelled quietToken follows legible quietRest
          (fun part member => single part (List.mem_cons_of_mem _ member)) shedsRest
      refine ⟨⟨[], token⟩ :: closer, (text_cons ⟨[], token⟩ closer).symm,
        congrArg (token :: ·) same, ⟨⟨blank, spelled, followsCloser, legibleCloser⟩, ?_, ?_, ?_⟩⟩
      · intro part member
        have found : part.token ∈ token :: closer.map Spaced.token :=
          List.mem_map.mpr ⟨part, member, rfl⟩
        rw [same] at found
        rcases List.mem_cons.mp found with isFirst | found
        · rwa [isFirst]
        · obtain ⟨other, otherMember, isOther⟩ := List.mem_map.mp found
          rw [← isOther]
          exact quietRest other otherMember
      · intro part member
        rcases List.mem_cons.mp member with rfl | member
        · exact .inl rfl
        · exact singleCloser part member
      · rintro _ ⟨⟩
        rfl

theorem Closed.compacts
    {spaced : List Spaced}
    {shortest : List Char}
    (closed : Closed spaced)
    (compacts : Compacts (text spaced) shortest) :
    ∃ closer, shortest = text closer ∧ closer.map Spaced.token = spaced.map Spaced.token
      ∧ Closed closer := by
  generalize begins : text spaced = start at compacts
  induction compacts generalizing spaced with
  | refl => exact ⟨spaced, begins.symm, rfl, closed⟩
  | step sheds _ inductionHypothesis =>
      rw [← begins] at sheds
      obtain ⟨closer, rfl, same, closedCloser⟩ := closed.sheds sheds
      obtain ⟨closest, rfl, sameClosest, found⟩ := inductionHypothesis closedCloser rfl
      exact ⟨closest, rfl, sameClosest.trans same, found⟩

theorem mayTouch_of_gapIn
    {left right : Token}
    (noGap : right.gapIn left.behind = []) :
    left.mayTouch right = true := by
  rw [Token.mayTouch, Bool.or_eq_true]
  have printsGap (behind : left.behind = .token) : right.opensAhead = true := by
    rw [behind] at noGap
    cases right with
    | closing delimiter => rfl
    | word | mark | literal | opening => simp [Token.gapIn] at noGap
  cases left with
  | opening delimiter => exact .inl rfl
  | word | literal | closing => exact .inr (printsGap rfl)
  | mark char spacing =>
      cases spacing with
      | joint => exact .inl rfl
      | alone => exact .inr (printsGap rfl)

theorem gapIn_of_runsInto
    {left right : Token}
    (spelled : left.isSpelled = true)
    (fits : left.fits right = true)
    (runs : left.runsInto right = true) :
    right.gapIn left.behind = [] := by
  cases left with
  | word | literal | opening | closing => contradiction
  | mark char spacing =>
      obtain rfl : spacing = .joint := by
        have runsOn : char = '\'' ∨ spacing = .joint := by
          cases right <;> simp_all [Token.runsInto]
        rcases runsOn with rfl | joint
        · rw [Token.isSpelled, Bool.and_eq_true] at spelled
          simpa using spelled.2
        · exact joint
      cases right with
      | word | mark => rfl
      | literal | opening | closing =>
          obtain rfl : char = '\'' := beq_iff_eq.mp runs
          contradiction

theorem follows_printed
    {token : Token}
    {rest : List Token}
    (spelled : token.isSpelled = true)
    (fit : Token.fitTogether (token :: rest) = true) :
    Follows token (printed token.behind rest) := by
  cases rest with
  | nil =>
      show token.runsOn = false
      simpa [Token.fitTogether] using fit
  | cons next rest =>
      rw [Token.fitTogether, Bool.and_eq_true] at fit
      exact ⟨fit.1, mayTouch_of_gapIn, gapIn_of_runsInto spelled fit.1⟩

theorem legible_printed
    {before : Token.Before}
    {row : List Token}
    (spelled : ∀ token ∈ row, token.isSpelled = true)
    (fit : Token.fitTogether row = true) :
    Legible (printed before row) := by
  induction row generalizing before with
  | nil => trivial
  | cons token rest inductionHypothesis =>
      have spelledToken := spelled token List.mem_cons_self
      have fitRest : Token.fitTogether rest = true := by
        cases rest with
        | nil => rfl
        | cons next rest =>
            rw [Token.fitTogether, Bool.and_eq_true] at fit
            exact fit.2
      refine ⟨?_, spelledToken, follows_printed spelledToken fit, inductionHypothesis
        (fun other member => spelled other (List.mem_cons_of_mem _ member)) fitRest⟩
      intro char member
      rw [Scan.isGap, isBlank_of_mem_gapIn member, Bool.true_or, Bool.true_or]

theorem exists_gapIn_of_mem_printed
    {before : Token.Before}
    {row : List Token}
    {part : Spaced}
    (member : part ∈ printed before row) :
    part.token ∈ row ∧ ∃ other, part.gap = part.token.gapIn other := by
  induction row generalizing before with
  | nil => contradiction
  | cons token rest inductionHypothesis =>
      rcases List.mem_cons.mp member with rfl | member
      · exact ⟨List.mem_cons_self, before, rfl⟩
      · obtain ⟨found, gap⟩ := inductionHypothesis member
        exact ⟨List.mem_cons_of_mem _ found, gap⟩

theorem closed_printed
    {row : List Token}
    (isRow : Token.IsRow row) :
    Closed (closeFirst (printed .start row)) := by
  have legible : Legible (printed .start row) := legible_printed isRow.spelled isRow.fit
  have parts {part : Spaced} (member : part ∈ printed .start row) :
      part.token.isQuiet = true ∧ (part.gap = [] ∨ part.gap = [' ']) := by
    obtain ⟨found, other, gap⟩ := exists_gapIn_of_mem_printed member
    rw [gap]
    exact ⟨isRow.quiet _ found, gapIn_single other part.token⟩
  cases spaced : printed .start row with
  | nil => exact ⟨trivial, by simp [closeFirst], by simp [closeFirst], by simp [closeFirst]⟩
  | cons part rest =>
      rw [spaced] at legible parts
      refine ⟨⟨by simp, legible.2.1, legible.2.2.1, legible.2.2.2⟩, ?_, ?_, ?_⟩
      · intro other member
        rcases List.mem_cons.mp member with rfl | member
        · exact (parts List.mem_cons_self).1
        · exact (parts (List.mem_cons_of_mem _ member)).1
      · intro other member
        rcases List.mem_cons.mp member with rfl | member
        · exact .inl rfl
        · exact (parts (List.mem_cons_of_mem _ member)).2
      · rintro _ ⟨⟩
        rfl

theorem isBlank_of_mem_owedBehind
    {before : Token.Before}
    {row : List Token}
    {char : Char}
    (member : char ∈ Token.owedBehind before row) :
    isBlank char = true := by
  induction row generalizing before with
  | cons token rest inductionHypothesis => exact inductionHypothesis member
  | nil =>
      rw [Token.owedBehind, Token.owed] at member
      split at member
      · rw [List.mem_singleton.mp member]
        decide
      · contradiction

theorem trim_textOf
    {row : List Token}
    (isRow : Token.IsRow row) :
    trimChars (Token.textOf row).toList = text (closeFirst (printed .start row)) := by
  have printedText := owed_append_textFrom .start row
  rw [Token.textOf, show (Token.textFrom .start row).toList
    = text (printed .start row) ++ Token.owedBehind .start row from printedText]
  apply trimChars_text
  · intro part member
    obtain ⟨found, -⟩ := exists_gapIn_of_mem_printed member
    exact ⟨isRow.spelled _ found, isRow.quiet _ found⟩
  · intro part member char inGap
    obtain ⟨-, other, gap⟩ := exists_gapIn_of_mem_printed member
    rw [gap] at inGap
    exact isBlank_of_mem_gapIn inGap
  · intro char member
    exact isBlank_of_mem_owedBehind member

/-- The compact text of a row of tokens is legible, and its tokens are those of the row. -/
theorem exists_compact
    {row : List Token}
    (isRow : Token.IsRow row) :
    ∃ spaced, (compact (Token.textOf row)).toList = text spaced
      ∧ spaced.map Spaced.token = row ∧ Closed spaced := by
  have compacts := compacts_compact (Token.textOf row)
  rw [trim_textOf isRow] at compacts
  obtain ⟨closer, spelled, same, closed⟩ := (closed_printed isRow).compacts compacts
  refine ⟨closer, spelled, ?_, closed⟩
  rw [same, map_token_closeFirst, map_token_printed]

end Spaced

end Scaffold.Source
