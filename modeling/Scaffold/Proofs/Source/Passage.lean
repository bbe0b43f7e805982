import Scaffold.Proofs.Source.Row

/-!
Contract: a scan that succeeds, followed through its text.

Owns:
- what is left of a scan at a place in the text;
- the passage of a scan through a front part, and the tokens that it reads there;
- one lemma for blanks, for documentation lines and for each sort of token.

Does not own: whether a scan succeeds.
-/

namespace Scaffold.Source.Scan

open Scaffold.Text Token

/-! ### Passages -/

/-- Behind some blanks and inside of the delimiters `pending`, the text is scanned to the row. -/
def ScansTo (pending : List Delimiter) (text : List Char) (row : List Token) : Prop :=
  ∃ gap fuel, (∀ char ∈ gap, isGap char = true) ∧ (gap ++ text).length < fuel
    ∧ tokensFrom fuel pending (gap ++ text) = some row

theorem scansTo_of_tokens?
    {text : List Char}
    {row : List Token}
    (scanned : tokens? text = some row) :
    ScansTo [] (withoutByteOrderMark text) row :=
  ⟨[], _, by simp, Nat.lt_succ_self _, scanned⟩

/-- A scan of the text that succeeds reads the tokens first, and then scans the rest. -/
def Passes (text : List Char) (tokens : List Token) (rest : List Char) : Prop :=
  ∀ ⦃pending : List Delimiter⦄ ⦃row : List Token⦄, ScansTo pending text row →
    ∃ after behind, openBehind pending tokens = some after ∧ row = tokens ++ behind
      ∧ ScansTo after rest behind

namespace Passes

variable {text middle rest : List Char}

theorem refl (text : List Char) : Passes text [] text :=
  fun pending row scanned => ⟨pending, row, rfl, rfl, scanned⟩

theorem trans
    {tokens more : List Token}
    (first : Passes text tokens middle)
    (second : Passes middle more rest) :
    Passes text (tokens ++ more) rest := by
  intro pending row scanned
  obtain ⟨between, behind, opened, rfl, scannedMiddle⟩ := first scanned
  obtain ⟨after, last, openedMore, rfl, scannedRest⟩ := second scannedMiddle
  refine ⟨after, last, ?_, (List.append_assoc ..).symm, scannedRest⟩
  rw [openBehind_append, opened, Option.bind_some, openedMore]

/-- What one step of the scanner reads. -/
theorem of_step
    {tokens : List Token}
    (shorter : rest.length < text.length)
    (step : ∀ pending gap fuel row, (∀ char ∈ gap, isGap char = true) → gap.length ≤ fuel →
      tokensFrom (fuel + 1) pending (gap ++ text) = some row →
        ((openBehind pending tokens).bind fun after =>
          (tokensFrom fuel after rest).map (tokens ++ ·)) = some row) :
    Passes text tokens rest := by
  rintro pending row ⟨gap, fuel, blank, enough, scanned⟩
  rw [List.length_append] at enough
  cases fuel with
  | zero => contradiction
  | succ fuel =>
      have read := step pending gap fuel row blank (by omega) scanned
      obtain ⟨after, opened, mapped⟩ := Option.bind_eq_some_iff.mp read
      obtain ⟨behind, scannedRest, rfl⟩ := Option.map_eq_some_iff.mp mapped
      have enoughRest : ([] ++ rest).length < fuel := by
        rw [List.nil_append]
        omega
      exact ⟨after, behind, opened, rfl, [], fuel, by simp, enoughRest, scannedRest⟩

/-! ### Blanks and tokens -/

theorem blank {char : Char} (gap : isGap char = true) : Passes (char :: rest) [] rest := by
  rintro pending row ⟨front, fuel, blank, enough, scanned⟩
  rw [List.append_cons] at scanned enough
  refine ⟨pending, row, rfl, rfl, front ++ [char], fuel, ?_, enough, scanned⟩
  intro other member
  rcases List.mem_append.mp member with inFront | isLast
  · exact blank other inFront
  · rwa [List.mem_singleton.mp isLast]

theorem leaf
    {token : Token}
    (leads : Leads token text rest)
    (shorter : rest.length < text.length)
    (plain : ∀ pending, openBehind pending [token] = some pending) :
    Passes text [token] rest := by
  refine of_step shorter fun pending gap fuel row blank enough scanned => ?_
  rw [leads.tokensFrom_append blank enough] at scanned
  rwa [plain pending, Option.bind_some]

theorem opening
    (delimiter : Delimiter)
    (plain : NoComment rest) :
    Passes (delimiter.openingText.toList ++ rest) [.opening delimiter] rest := by
  have spelled : delimiter.openingText.toList.length = 1 := by cases delimiter <;> rfl
  have longer : rest.length < (delimiter.openingText.toList ++ rest).length := by
    rw [List.length_append, spelled]
    omega
  refine of_step longer fun pending gap fuel row blank enough scanned => ?_
  rwa [tokensFrom_opening blank plain enough] at scanned

theorem closing (delimiter : Delimiter) :
    Passes (delimiter.closingText.toList ++ rest) [.closing delimiter] rest := by
  have spelled : delimiter.closingText.toList.length = 1 := by cases delimiter <;> rfl
  have longer : rest.length < (delimiter.closingText.toList ++ rest).length := by
    rw [List.length_append, spelled]
    omega
  refine of_step longer fun pending gap fuel row blank enough scanned => ?_
  rwa [tokensFrom_closing blank enough] at scanned

theorem word
    {name : String}
    (word : isWord name = true)
    (ends : Ends rest) :
    Passes (name.toList ++ rest) [.word name] rest := by
  obtain ⟨first, behind, spelled, -⟩ := exists_start_of_isWord ends word
  have longer : rest.length < (name.toList ++ rest).length := by
    rw [spelled, List.length_append, List.length_cons]
    omega
  exact leaf (leads_word ends word) longer fun _ => rfl

theorem read
    {spelling : String}
    (something : spelling.toList ≠ [])
    (read : Literal.after (spelling.toList ++ rest) = some rest) :
    Passes (spelling.toList ++ rest) [.literal spelling] rest := by
  have longer : rest.length < (spelling.toList ++ rest).length := by
    rw [List.length_append]
    have := List.length_pos_iff.mpr something
    omega
  exact leaf (leads_of_read read) longer fun _ => rfl

theorem literal
    {spelling : String}
    (literal : Literal.after spelling.toList = some [])
    (stops : Stops rest) :
    Passes (spelling.toList ++ rest) [.literal spelling] rest := by
  obtain ⟨first, behind, spelled, -⟩ := exists_start_of_literal literal
  exact read (by simp [spelled]) (Literal.after_append stops literal)

theorem mark
    {char : Char}
    (mark : char ∈ markChars)
    (noQuote : char ≠ '\'')
    (plain : NoComment (char :: rest)) :
    Passes (char :: rest)
      [.mark char (if (markChar? rest).isSome then .joint else .alone)] rest :=
  leaf (leads_mark mark noQuote plain) (Nat.lt_succ_self _) fun _ => rfl

theorem quote
    {name : String}
    (word : isWord name = true)
    (stops : Stops rest) :
    Passes ('\'' :: (name.toList ++ rest)) [.mark '\'' .joint] (name.toList ++ rest) :=
  leaf (leads_quote stops word) (Nat.lt_succ_self _) fun _ => rfl

/-! ### Documentation lines -/

theorem splitLine_of_line
    {line : List Char}
    (oneLine : '\n' ∉ line)
    (rest : List Char) :
    ∃ contents, splitLine (line ++ '\n' :: rest) = (contents, '\n' :: rest) := by
  induction line with
  | nil => exact ⟨[], rfl⟩
  | cons char line inductionHypothesis =>
      rw [List.mem_cons, not_or] at oneLine
      obtain ⟨contents, split⟩ := inductionHypothesis oneLine.2
      by_cases returns : char = '\r' ∧ line = []
      · obtain ⟨rfl, rfl⟩ := returns
        exact ⟨[], rfl⟩
      · refine ⟨char :: contents, ?_⟩
        rw [List.cons_append, splitLine, split]
        · rintro rfl
          exact oneLine.1 rfl
        · rintro behind rfl same
          cases line with
          | nil => exact returns ⟨rfl, rfl⟩
          | cons second line =>
              obtain ⟨rfl, -⟩ := List.cons.inj same
              exact oneLine.2 List.mem_cons_self

/-- The tokens of a documentation line. -/
def noteTokens (contents : List Char) : List Token :=
  docTokens ⟨false, contents, []⟩

theorem note
    {line : List Char}
    (oneLine : '\n' ∉ line)
    (plain : ∀ char ∈ line.head?, char ≠ '/')
    (rest : List Char) :
    ∃ contents, Passes ('/' :: '/' :: '/' :: (line ++ '\n' :: rest)) (noteTokens contents)
      ('\n' :: rest) := by
  obtain ⟨contents, split⟩ := splitLine_of_line oneLine rest
  have noFourth : ∀ behind, line ++ '\n' :: rest ≠ '/' :: behind := by
    intro behind same
    cases line with
    | nil => exact absurd (List.cons.inj same).1 (by decide)
    | cons first line => exact plain first rfl (List.cons.inj same).1
  have shorter : ('\n' :: rest).length < ('/' :: '/' :: '/' :: (line ++ '\n' :: rest)).length := by
    simp only [List.length_cons, List.length_append]
    omega
  generalize line ++ '\n' :: rest = text at split noFourth shorter
  have document : docComment? ('/' :: '/' :: '/' :: text) = some ⟨false, contents, '\n' :: rest⟩ := by
    rw [docComment?, split]
    exact noFourth
  have clean : Clean ('/' :: '/' :: '/' :: text) := by
    rintro _ _ ⟨⟩
    refine ⟨by decide, ?_, rfl⟩
    rw [startsPlainLine]
    exact noFourth
  refine ⟨contents, of_step shorter fun pending gap fuel row blank enough scanned => ?_⟩
  have skipped := skipGaps_append blank clean enough
  simp only [tokensFrom, skipped, document] at scanned
  exact (Option.ite_none_right_eq_some.mp scanned).2

end Passes

end Scaffold.Source.Scan
