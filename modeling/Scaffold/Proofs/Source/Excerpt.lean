import Scaffold.Proofs.Source.Passage

/-!
Contract: legible text within other text.

Owns:
- the passage of a scan through legible text that a stop follows;
- the tokens that it reads there, up to their spacing.

Does not own: whether a scan succeeds.
-/

namespace Scaffold.Source

open Scaffold.Text Scan

/-! ### Tokens up to spacing -/

namespace Token

theorem openBehind_map_bare (pending : List Delimiter) (row : List Token) :
    openBehind pending (row.map bare) = openBehind pending row := by
  induction row generalizing pending with
  | nil => rfl
  | cons token row inductionHypothesis =>
      cases token with
      | word | literal | mark => exact inductionHypothesis pending
      | opening delimiter => exact inductionHypothesis (delimiter :: pending)
      | closing delimiter =>
          cases pending with
          | nil => rfl
          | cons innermost outer =>
              show (if _ then openBehind outer (row.map bare) else none) = _
              rw [inductionHypothesis]
              rfl

theorem word_mem_map_bare {name : String} {row : List Token} :
    .word name ∈ row.map bare ↔ .word name ∈ row := by
  constructor
  · intro member
    obtain ⟨token, inRow, same⟩ := List.mem_map.mp member
    cases token with
    | word => rwa [← same]
    | mark | literal | opening | closing => cases same
  · intro member
    exact List.mem_map.mpr ⟨_, member, rfl⟩

end Token

/-! ### Passages -/

/-- What ends with a stop does so in front of any other stop. -/
theorem Stops.replace
    {front after back : List Char}
    (stops : Stops (front ++ after))
    (stopsBack : Stops back) :
    Stops (front ++ back) := by
  cases front with
  | nil => exact stopsBack
  | cons char front => exact stops

theorem Scan.NoComment.replace
    {front after back : List Char}
    (plain : NoComment (front ++ after))
    (stopsBack : Stops back) :
    NoComment (front ++ back) := by
  have other (char : Char) (second : char = '/' ∨ char = '*') (behind : List Char) :
      front ++ back ≠ '/' :: char :: behind := by
    intro same
    cases front with
    | nil => exact not_slash_of_stops stopsBack (.inl rfl) same
    | cons first front =>
        obtain ⟨rfl, sameBehind⟩ := List.cons.inj same
        cases front with
        | nil => exact not_slash_of_stops stopsBack second sameBehind
        | cons next front =>
            obtain ⟨rfl, -⟩ := List.cons.inj sameBehind
            rcases second with rfl | rfl
            · exact (plain (front ++ after)).1 rfl
            · exact (plain (front ++ after)).2 rfl
  exact fun behind => ⟨other '/' (.inl rfl) behind, other '*' (.inr rfl) behind⟩

namespace Spaced

/-- The semicolon that ends a text. -/
def semicolon (gap : List Char) : Spaced :=
  ⟨gap, .mark ';' .alone⟩

theorem passes_gap
    {gap : List Char}
    (blank : ∀ char ∈ gap, isGap char = true)
    (rest : List Char) :
    Passes (gap ++ rest) [] rest := by
  induction gap with
  | nil => exact Passes.refl rest
  | cons char gap inductionHypothesis =>
      rw [List.forall_mem_cons] at blank
      exact (Passes.blank blank.1).trans (inductionHypothesis blank.2)

theorem text_semicolon (front : List Spaced) (gap : List Char) :
    text (front ++ [semicolon gap]) = (text front ++ gap) ++ [';'] := by
  simp [text_append, semicolon, Token.characters]

/-- Text that is legible in front of a semicolon is passed in front of any other stop. -/
theorem Legible.passes
    {front : List Spaced}
    {gap back : List Char}
    (legible : Legible (front ++ [semicolon gap]))
    (stops : Stops back) :
    ∃ row, Passes (text front ++ (gap ++ back)) row back
      ∧ row.map Token.bare = (front.map Spaced.token).map Token.bare := by
  induction front with
  | nil => exact ⟨[], passes_gap legible.1 back, rfl⟩
  | cons part rest inductionHypothesis =>
      obtain ⟨gapPart, token⟩ := part
      rw [List.cons_append] at legible
      obtain ⟨blank, spelled, follows, legible⟩ := legible
      obtain ⟨row, passes, same⟩ := inductionHypothesis legible
      have stopsRest (word : (∃ name, token = .word name) ∨ ∃ spelling, token = .literal spelling) :
          Stops (text rest ++ (gap ++ back)) := by
        have ended := follows.stops legible word
        rw [text_semicolon] at ended
        rw [← List.append_assoc]
        exact ended.replace stops
      suffices first : ∃ token', Passes (token.characters ++ (text rest ++ (gap ++ back))) [token']
          (text rest ++ (gap ++ back)) ∧ token'.bare = token.bare by
        obtain ⟨token', passesFirst, sameFirst⟩ := first
        refine ⟨token' :: row, ?_, by rw [List.map_cons, sameFirst, same]; rfl⟩
        rw [text_cons, List.append_assoc, List.append_assoc]
        exact (passes_gap blank _).trans (passesFirst.trans passes)
      cases token with
      | opening delimiter =>
          have plain := legible.noComment
          rw [text_semicolon] at plain
          have plain := plain.replace stops
          rw [List.append_assoc] at plain
          exact ⟨_, Passes.opening delimiter plain, rfl⟩
      | closing delimiter => exact ⟨_, Passes.closing delimiter, rfl⟩
      | word name => exact ⟨_, Passes.word spelled (ends_of_stops (stopsRest (.inl ⟨_, rfl⟩))), rfl⟩
      | literal spelling =>
          exact ⟨_, Passes.literal (beq_iff_eq.mp spelled) (stopsRest (.inr ⟨_, rfl⟩)), rfl⟩
      | mark char spacing =>
          rw [Token.isSpelled, Bool.and_eq_true] at spelled
          have isMark := List.contains_iff_mem.mp spelled.1
          by_cases quote : char = '\''
          · subst quote
            cases rest with
            | nil => exact absurd follows.1 Bool.false_ne_true
            | cons next more =>
                obtain ⟨gapNext, token⟩ := next
                obtain ⟨fits, -, close⟩ := follows
                cases token with
                | mark | literal | opening | closing => contradiction
                | word name =>
                    have noGap : gapNext = [] := close rfl
                    subst noGap
                    rw [List.cons_append] at legible
                    have ended := legible.2.2.1.stops legible.2.2.2 (.inl ⟨name, rfl⟩)
                    rw [text_semicolon] at ended
                    have ended := ended.replace stops
                    have passesQuote := Passes.quote legible.2.1 ended
                    rw [text_cons]
                    simp only [List.nil_append, List.append_assoc, Token.characters,
                      List.singleton_append] at passesQuote ⊢
                    exact ⟨_, passesQuote, rfl⟩
          · have plain := follows.noComment legible
            rw [text_semicolon, ← List.cons_append] at plain
            have plain := plain.replace stops
            rw [List.cons_append, List.append_assoc] at plain
            exact ⟨_, Passes.mark isMark quote plain, rfl⟩

end Spaced

/-- Text that spells a row in front of a semicolon is passed in front of any other stop. -/
theorem Token.Spells.passes
    {row : List Token}
    {text back : List Char}
    (spells : Token.Spells (row ++ Token.marks ";") (text ++ [';']))
    (stops : Stops back) :
    ∃ read, Passes (text ++ back) read back ∧ read.map Token.bare = row.map Token.bare := by
  obtain ⟨spaced, spelled, same, legible⟩ := spells
  obtain ⟨front, last, rfl, rfl, isLast⟩ := List.map_eq_append_iff.mp same
  obtain ⟨part, nothing, rfl, ended, isNothing⟩ := List.map_eq_cons_iff.mp isLast
  cases List.map_eq_nil_iff.mp isNothing
  obtain ⟨gap, token⟩ := part
  cases ended
  have legible : Spaced.Legible (front ++ [Spaced.semicolon gap]) := legible
  obtain ⟨read, passes, sameRead⟩ := legible.passes stops
  have whole : text ++ [';'] = (Spaced.text front ++ gap) ++ [';'] :=
    spelled.symm.trans (Spaced.text_semicolon front gap)
  rw [List.append_cancel_right whole, List.append_assoc]
  exact ⟨read, passes, sameRead⟩

end Scaffold.Source
