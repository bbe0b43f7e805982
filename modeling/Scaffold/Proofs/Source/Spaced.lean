import Scaffold.Proofs.Source.Leaf

/-!
Contract: the tokens that are found again in a text with blanks between them.

Owns:
- the tokens that may stand behind each other, with a blank between them and without one;
- the steps of the scanner, one for each sort of token;
- legible text, which is scanned to its own tokens.

Does not own: where the blanks come from.
-/

namespace Scaffold.Source

open Scaffold.Text

/-! ### Tokens as text -/

namespace Token

/-- The characters of a token. -/
def characters : Token → List Char
  | .word text => text.toList
  | .mark char _ => [char]
  | .literal text => text.toList
  | .opening delimiter => delimiter.openingText.toList
  | .closing delimiter => delimiter.closingText.toList

/-- A token without its spacing. -/
def bare : Token → Token
  | .mark char _ => .mark char .alone
  | token => token

/-- Is the token spelled as the scanner would spell it? -/
def isSpelled : Token → Bool
  | .word text => Scan.isWord text
  | .mark char spacing => Scan.markChars.contains char && (char != '\'' || spacing == .joint)
  | .literal text => Literal.after text.toList == some []
  | .opening _ => true
  | .closing _ => true

/-- Does the token run into another one? So does the quote of a lifetime. -/
def runsOn : Token → Bool
  | .mark char spacing => char == '\'' || spacing == .joint
  | _ => false

/-- Does a token run into the one behind it? A mark does so only into a mark. -/
def runsInto : Token → Token → Bool
  | .mark char spacing, .mark _ _ => char == '\'' || spacing == .joint
  | .mark char _, _ => char == '\''
  | _, _ => false

/-- May a token stand behind another one in a row? A quote belongs to a word, and a slash joined to
a slash or a star would begin a comment. -/
def fits : Token → Token → Bool
  | .mark '\'' _, .word _ => true
  | .mark '\'' _, _ => false
  | .mark '/' .joint, .mark char _ => char != '/' && char != '*'
  | _, _ => true

/-- Is a row another one with new spacing, in which every token still runs into the one behind it that
did? -/
inductive ReadsAs : List Token → List Token → Prop
  | nil : ReadsAs [] []
  | cons
      {token scanned : Token}
      {rest behind : List Token}
      (same : scanned.bare = token.bare)
      (runs : ∀ next ∈ rest.head?, token.runsInto next = true → scanned.runsOn = true)
      (reads : ReadsAs rest behind) :
      ReadsAs (token :: rest) (scanned :: behind)

theorem ReadsAs.map_bare {row scanned : List Token} (reads : ReadsAs row scanned) :
    scanned.map bare = row.map bare := by
  induction reads with
  | nil => rfl
  | cons same _ _ inductionHypothesis =>
      rw [List.map_cons, List.map_cons, same, inductionHypothesis]

/-- May any token stand right behind this one, without a blank between them? -/
def opensBehind : Token → Bool
  | .opening _ => true
  | .mark _ .joint => true
  | .mark char .alone => [':', '&', '*', '<'].contains char
  | _ => false

/-- May this token stand right behind any other, without a blank between them? -/
def opensAhead : Token → Bool
  | .opening _ => true
  | .closing _ => true
  | .mark char _ => [':', ',', ';', '<', '>'].contains char
  | _ => false

/-- May a token stand behind another one without a blank between them? -/
def mayTouch (left right : Token) : Bool :=
  left.opensBehind || right.opensAhead

/-- The delimiters that are open behind a row, the innermost first, where `pending` are open in
front of it; nothing if one is closed that is not the innermost. -/
def openBehind (pending : List Delimiter) : List Token → Option (List Delimiter)
  | [] => some pending
  | .opening delimiter :: rest => openBehind (delimiter :: pending) rest
  | .closing delimiter :: rest =>
      match pending with
      | innermost :: outer => if innermost = delimiter then openBehind outer rest else none
      | [] => none
  | _ :: rest => openBehind pending rest

end Token

/-- A token with the blanks in front of it. -/
structure Spaced where
  gap : List Char
  token : Token

namespace Spaced

/-- The text of tokens with their blanks. -/
def text (spaced : List Spaced) : List Char :=
  spaced.flatMap fun part => part.gap ++ part.token.characters

/-- May the tokens stand behind a given one? -/
def Follows (left : Token) : List Spaced → Prop
  | [] => left.runsOn = false
  | next :: _ =>
      left.fits next.token = true ∧ (next.gap = [] → left.mayTouch next.token = true)
        ∧ (left.runsInto next.token = true → next.gap = [])

/-- Do the blanks keep apart what has to stand apart, so that the tokens are found again? -/
def Legible : List Spaced → Prop
  | [] => True
  | part :: rest =>
      (∀ char ∈ part.gap, Scan.isGap char = true) ∧ part.token.isSpelled = true
        ∧ Follows part.token rest ∧ Legible rest

end Spaced

namespace Scan

/-! ### Gaps -/

theorem isStop_of_isGap {char : Char} (gap : isGap char = true) : isStop char = true := by
  rw [isStop, gap, Bool.true_or]

theorem not_slash_of_stops {behind : List Char} {char : Char} {text : List Char}
    (stops : Stops text)
    (slash : char = '/' ∨ char = '*') :
    text ≠ char :: behind := by
  rcases slash with rfl | rfl <;> exact Literal.ne_of_stops stops (by decide)

/-- A text begins with neither a blank nor a plain comment. -/
def Clean (text : List Char) : Prop :=
  ∀ char behind, text = char :: behind →
    isGap char = false ∧ startsPlainLine text = false ∧ startsPlainBlock text = false

theorem skipGaps_of_clean
    {text : List Char}
    (clean : Clean text)
    (fuel : Nat) :
    skipGaps fuel text = text := by
  cases fuel with
  | zero => rfl
  | succ fuel =>
      cases text with
      | nil => rfl
      | cons char behind =>
          obtain ⟨noGap, noLine, noBlock⟩ := clean char behind rfl
          simp only [skipGaps, noLine, noBlock, noGap, Bool.false_eq_true, if_false]

theorem skipGaps_append
    {gap text : List Char}
    {fuel : Nat}
    (blank : ∀ char ∈ gap, isGap char = true)
    (clean : Clean text)
    (enough : gap.length ≤ fuel) :
    skipGaps fuel (gap ++ text) = text := by
  induction gap generalizing fuel with
  | nil => exact skipGaps_of_clean clean fuel
  | cons char gap inductionHypothesis =>
      have isBlank := blank char List.mem_cons_self
      have noSlash : char ≠ '/' := by
        rintro rfl
        exact absurd isBlank (by decide)
      have noComment : NoComment (char :: (gap ++ text)) := noComment_of_ne noSlash
      obtain ⟨noLine, noBlock⟩ := noComment.plain
      cases fuel with
      | zero => exact absurd enough (Nat.not_succ_le_zero _)
      | succ fuel =>
          rw [List.cons_append]
          simp only [skipGaps, noLine, noBlock, isBlank, Bool.false_eq_true, if_false, if_true]
          exact inductionHypothesis (fun other member => blank other (List.mem_cons_of_mem _ member))
            (Nat.le_of_succ_le_succ enough)

theorem Leads.clean
    {token : Token}
    {text rest : List Char}
    (leads : Leads token text rest) :
    Clean text := by
  obtain ⟨char, behind, rfl, noGap, -⟩ := leads.apart
  rintro _ _ ⟨⟩
  exact ⟨noGap, leads.noComment.1, leads.noComment.2⟩

/-! ### Steps of the scanner -/

/-- The text is scanned to the row, inside of the delimiters `pending`. -/
def Scans (pending : List Delimiter) (text : List Char) (row : List Token) : Prop :=
  ∀ fuel, text.length < fuel → tokensFrom fuel pending text = some row

variable {pending : List Delimiter} {gap text rest : List Char} {row : List Token}

theorem scans_gap (blank : ∀ char ∈ gap, isGap char = true) : Scans [] gap [] := by
  intro fuel enough
  cases fuel with
  | zero => exact absurd enough (Nat.not_lt_zero _)
  | succ fuel =>
      have skipped : skipGaps fuel (gap ++ []) = [] :=
        skipGaps_append blank (fun _ _ => by rintro ⟨⟩) (Nat.le_of_lt_succ enough)
      rw [List.append_nil] at skipped
      simp [tokensFrom, skipped]

theorem Leads.tokensFrom_append
    {token : Token}
    {fuel : Nat}
    (leads : Leads token text rest)
    (blank : ∀ char ∈ gap, isGap char = true)
    (enough : gap.length ≤ fuel) :
    tokensFrom (fuel + 1) pending (gap ++ text) = (tokensFrom fuel pending rest).map (token :: ·) := by
  have skipped : skipGaps fuel (gap ++ text) = text := skipGaps_append blank leads.clean enough
  obtain ⟨char, after, rfl, -, noClosing⟩ := leads.apart
  simp only [tokensFrom, skipped, leads.noDoc, leads.noOpening, noClosing, leads.leaf]

theorem Scans.leaf
    {token : Token}
    (behind : Scans pending rest row)
    (blank : ∀ char ∈ gap, isGap char = true)
    (leads : Leads token text rest)
    (shorter : rest.length < text.length) :
    Scans pending (gap ++ text) (token :: row) := by
  intro fuel enough
  cases fuel with
  | zero => exact absurd enough (Nat.not_lt_zero _)
  | succ fuel =>
      rw [List.length_append] at enough
      rw [leads.tokensFrom_append blank (by omega), behind fuel (by omega), Option.map_some]

theorem afterBroken?_of_noComment (plain : NoComment text) : afterBroken? ('(' :: text) = none := by
  rw [afterBroken?, if_neg]
  intro broken
  obtain ⟨behind, same⟩ := List.isPrefixOf_iff_prefix.mp broken
  have same : text = '/' :: '*' :: ("ERROR*/)".toList ++ behind) :=
    (List.cons.inj same).2.symm
  exact (plain _).2 same

theorem tokensFrom_opening
    {delimiter : Delimiter}
    {fuel : Nat}
    (blank : ∀ char ∈ gap, isGap char = true)
    (plain : NoComment text)
    (enough : gap.length ≤ fuel) :
    tokensFrom (fuel + 1) pending (gap ++ (delimiter.openingText.toList ++ text))
      = (tokensFrom fuel (delimiter :: pending) text).map (.opening delimiter :: ·) := by
  obtain ⟨char, spelled, noGap, noSlash, opens⟩ :
      ∃ char, delimiter.openingText.toList = [char] ∧ isGap char = false ∧ char ≠ '/'
        ∧ opened? (char :: text) = some delimiter := by
    cases delimiter with
    | parenthesis =>
        refine ⟨'(', rfl, by decide, by decide, ?_⟩
        rw [opened?, afterBroken?_of_noComment plain]
        rfl
    | bracket => exact ⟨'[', rfl, by decide, by decide, rfl⟩
    | brace => exact ⟨'\x7b', rfl, by decide, by decide, rfl⟩
  have noComment : NoComment (char :: text) := noComment_of_ne noSlash
  have clean : Clean (char :: text) := by
    rintro _ _ ⟨⟩
    exact ⟨noGap, noComment.plain.1, noComment.plain.2⟩
  have skipped : skipGaps fuel (gap ++ (char :: text)) = char :: text :=
    skipGaps_append blank clean enough
  rw [spelled, List.singleton_append]
  simp only [tokensFrom, skipped, noComment.noDoc, opens]

theorem tokensFrom_closing
    {delimiter : Delimiter}
    {fuel : Nat}
    (blank : ∀ char ∈ gap, isGap char = true)
    (enough : gap.length ≤ fuel) :
    tokensFrom (fuel + 1) pending (gap ++ (delimiter.closingText.toList ++ text))
      = (Token.openBehind pending [.closing delimiter]).bind fun outer =>
          (tokensFrom fuel outer text).map (.closing delimiter :: ·) := by
  obtain ⟨char, spelled, noGap, noSlash, closes, noOpening⟩ :
      ∃ char, delimiter.closingText.toList = [char] ∧ isGap char = false ∧ char ≠ '/'
        ∧ closedBy? char = some delimiter ∧ opened? (char :: text) = none := by
    cases delimiter with
    | parenthesis => exact ⟨')', rfl, by decide, by decide, rfl, rfl⟩
    | bracket => exact ⟨']', rfl, by decide, by decide, rfl, rfl⟩
    | brace => exact ⟨'\x7d', rfl, by decide, by decide, rfl, rfl⟩
  have noComment : NoComment (char :: text) := noComment_of_ne noSlash
  have clean : Clean (char :: text) := by
    rintro _ _ ⟨⟩
    exact ⟨noGap, noComment.plain.1, noComment.plain.2⟩
  have skipped : skipGaps fuel (gap ++ (char :: text)) = char :: text :=
    skipGaps_append blank clean enough
  rw [spelled, List.singleton_append]
  simp only [tokensFrom, skipped, noComment.noDoc, noOpening, closes]
  cases pending with
  | nil => rfl
  | cons innermost outer =>
      simp only [Token.openBehind]
      split <;> rfl

theorem Scans.opening
    {delimiter : Delimiter}
    (behind : Scans (delimiter :: pending) text row)
    (blank : ∀ char ∈ gap, isGap char = true)
    (plain : NoComment text) :
    Scans pending (gap ++ (delimiter.openingText.toList ++ text)) (.opening delimiter :: row) := by
  intro fuel enough
  have spelled : delimiter.openingText.toList.length = 1 := by cases delimiter <;> rfl
  cases fuel with
  | zero => exact absurd enough (Nat.not_lt_zero _)
  | succ fuel =>
      rw [List.length_append, List.length_append, spelled] at enough
      rw [tokensFrom_opening blank plain (by omega), behind fuel (by omega), Option.map_some]

theorem Scans.closing
    {delimiter : Delimiter}
    (behind : Scans pending text row)
    (blank : ∀ char ∈ gap, isGap char = true) :
    Scans (delimiter :: pending) (gap ++ (delimiter.closingText.toList ++ text))
      (.closing delimiter :: row) := by
  intro fuel enough
  have spelled : delimiter.closingText.toList.length = 1 := by cases delimiter <;> rfl
  cases fuel with
  | zero => exact absurd enough (Nat.not_lt_zero _)
  | succ fuel =>
      rw [List.length_append, List.length_append, spelled] at enough
      have closes : Token.openBehind (delimiter :: pending) [.closing delimiter] = some pending :=
        if_pos rfl
      rw [tokensFrom_closing blank (by omega), closes, Option.bind_some, behind fuel (by omega),
        Option.map_some]

end Scan

namespace Spaced

@[simp] theorem text_nil : text [] = [] := rfl

@[simp] theorem text_cons (part : Spaced) (rest : List Spaced) :
    text (part :: rest) = part.gap ++ (part.token.characters ++ text rest) := by
  rw [text, List.flatMap_cons, List.append_assoc, text]

/-- A token begins with a character, which is no slash and no star unless the token is. -/
theorem exists_start
    {token : Token}
    (spelled : token.isSpelled = true) :
    ∃ char behind, token.characters = char :: behind
      ∧ (char = '/' ∨ char = '*' → ∃ spacing, token = .mark char spacing) := by
  cases token with
  | word name =>
      obtain ⟨first, behind, same, starts, -⟩ :=
        Scan.exists_start_of_isWord (Scan.ends_of_stops stops_nil) spelled
      refine ⟨first, behind, same, ?_⟩
      rintro (rfl | rfl) <;> exact absurd starts (by decide)
  | mark char spacing => exact ⟨char, [], rfl, fun _ => ⟨spacing, rfl⟩⟩
  | literal spelling =>
      obtain ⟨first, behind, same, starts⟩ := Scan.exists_start_of_literal (beq_iff_eq.mp spelled)
      refine ⟨first, behind, same, ?_⟩
      rintro (rfl | rfl) <;> exact absurd starts (by decide)
  | opening delimiter =>
      cases delimiter <;> exact ⟨_, _, rfl, fun slash => absurd slash (by decide)⟩
  | closing delimiter =>
      cases delimiter <;> exact ⟨_, _, rfl, fun slash => absurd slash (by decide)⟩

theorem isStop_of_mayTouch
    {left right : Token}
    (word : (∃ name, left = .word name) ∨ ∃ spelling, left = .literal spelling)
    (touch : left.mayTouch right = true) :
    ∃ char behind, right.characters = char :: behind ∧ isStop char = true := by
  have stop : ∀ char ∈ [':', ',', ';', '<', '>'], isStop char = true :=
    forall_mem_of_all (by decide)
  have named : Token.mayTouch (.word "") right = true := by
    rcases word with ⟨name, rfl⟩ | ⟨spelling, rfl⟩ <;> exact touch
  cases right with
  | mark char spacing =>
      exact ⟨char, [], rfl, stop char (List.contains_iff_mem.mp named)⟩
  | opening delimiter => cases delimiter <;> exact ⟨_, _, rfl, by decide⟩
  | closing delimiter => cases delimiter <;> exact ⟨_, _, rfl, by decide⟩
  | word name => exact absurd named Bool.false_ne_true
  | literal spelling => exact absurd named Bool.false_ne_true

/-- Behind a word or a literal there is its end. -/
theorem Follows.stops
    {left : Token}
    {rest : List Spaced}
    (follows : Follows left rest)
    (legible : Legible rest)
    (word : (∃ name, left = .word name) ∨ ∃ spelling, left = .literal spelling) :
    Stops (text rest) := by
  cases rest with
  | nil => exact fun char => by rintro ⟨⟩
  | cons next more =>
      obtain ⟨gap, token⟩ := next
      rw [text_cons]
      cases gap with
      | nil =>
          obtain ⟨char, behind, spelled, stop⟩ := isStop_of_mayTouch word (follows.2.1 rfl)
          rw [List.nil_append, spelled]
          rintro _ ⟨⟩
          exact stop
      | cons char gap =>
          rintro _ ⟨⟩
          exact Scan.isStop_of_isGap (legible.1 char List.mem_cons_self)

theorem Follows.noComment
    {char : Char}
    {spacing : Spacing}
    {rest : List Spaced}
    (follows : Follows (.mark char spacing) rest)
    (legible : Legible rest) :
    Scan.NoComment (char :: text rest) := by
  by_cases slash : char = '/'
  · subst slash
    have open_ (other : Char) (second : other = '/' ∨ other = '*') (behind : List Char) :
        text rest ≠ other :: behind := by
      cases rest with
      | nil => exact fun same => by contradiction
      | cons next more =>
          obtain ⟨gap, token⟩ := next
          rw [text_cons]
          intro same
          cases gap with
          | nil =>
              obtain ⟨first, tail, spelled, isMark⟩ := exists_start legible.2.1
              rw [List.nil_append, spelled] at same
              obtain ⟨rfl, -⟩ := List.cons.inj same
              obtain ⟨other, rfl⟩ := isMark second
              obtain ⟨fits, touch, -⟩ := follows
              have touch := touch rfl
              rcases second with rfl | rfl <;> cases spacing <;> contradiction
          | cons blank gap =>
              obtain ⟨rfl, -⟩ := List.cons.inj same
              have isGap := legible.1 blank List.mem_cons_self
              rcases second with rfl | rfl <;> exact absurd isGap (by decide)
    intro behind
    refine ⟨fun same => ?_, fun same => ?_⟩
    · exact open_ '/' (.inl rfl) behind (List.cons.inj same).2
    · exact open_ '*' (.inr rfl) behind (List.cons.inj same).2
  · exact Scan.noComment_of_ne slash

theorem Legible.noComment {spaced : List Spaced} (legible : Legible spaced) :
    Scan.NoComment (text spaced) := by
  cases spaced with
  | nil => exact fun behind => ⟨fun same => by contradiction, fun same => by contradiction⟩
  | cons part rest =>
      obtain ⟨gap, token⟩ := part
      obtain ⟨blank, spelled, follows, legible⟩ := legible
      rw [text_cons]
      cases gap with
      | cons char gap =>
          apply Scan.noComment_of_ne
          rintro rfl
          exact absurd (blank '/' List.mem_cons_self) (by decide)
      | nil =>
          obtain ⟨first, tail, same, isMark⟩ := exists_start spelled
          by_cases slash : first = '/'
          · obtain ⟨spacing, rfl⟩ := isMark (.inl slash)
            exact follows.noComment legible
          · rw [List.nil_append, same]
            exact Scan.noComment_of_ne slash

/-- Right behind a quote there is a word. -/
theorem Follows.quoted
    {spacing : Spacing}
    {rest : List Spaced}
    (follows : Follows (.mark '\'' spacing) rest)
    (legible : Legible rest) :
    ∃ name more, text rest = name.toList ++ more ∧ Stops more ∧ Scan.isWord name = true := by
  cases rest with
  | nil => contradiction
  | cons next more =>
      obtain ⟨gap, token⟩ := next
      obtain ⟨fits, -, close⟩ := follows
      cases token with
      | word name =>
          have noGap : gap = [] := close rfl
          subst noGap
          refine ⟨name, text more, ?_, ?_, legible.2.1⟩
          · rw [text_cons, List.nil_append, Token.characters]
          · exact legible.2.2.1.stops legible.2.2.2 (.inl ⟨name, rfl⟩)
      | mark | literal | opening | closing => contradiction

/-- What a mark runs into that has no blank in front of it. -/
theorem Follows.joint
    {char : Char}
    {spacing : Spacing}
    {rest : List Spaced}
    (follows : Follows (.mark char spacing) rest)
    (legible : Legible rest)
    (noQuote : char ≠ '\'') :
    ∀ next ∈ (rest.map Spaced.token).head?, (Token.mark char spacing).runsInto next = true →
      (Scan.markChar? (text rest)).isSome = true := by
  cases rest with
  | nil => rintro _ ⟨⟩
  | cons next more =>
      obtain ⟨gap, token⟩ := next
      rintro _ ⟨⟩ runs
      have noGap : gap = [] := follows.2.2 runs
      subst noGap
      cases token with
      | word | literal | opening | closing => exact absurd (beq_iff_eq.mp runs) noQuote
      | mark behind other =>
          have spelled := legible.2.1
          rw [Token.isSpelled, Bool.and_eq_true] at spelled
          have plain := legible.noComment
          rw [text_cons, List.nil_append, Token.characters, List.singleton_append] at plain ⊢
          rw [plain.markChar?_eq, if_pos spelled.1]
          rfl

/-- Legible text is scanned to its tokens. -/
theorem Legible.scans
    {spaced : List Spaced}
    (legible : Legible spaced)
    {pending : List Delimiter}
    (balanced : Token.openBehind pending (spaced.map Spaced.token) = some []) :
    ∃ row, Scan.Scans pending (text spaced) row
      ∧ Token.ReadsAs (spaced.map Spaced.token) row := by
  induction spaced generalizing pending with
  | nil =>
      cases balanced
      exact ⟨[], Scan.scans_gap (by simp), .nil⟩
  | cons part rest inductionHypothesis =>
      obtain ⟨gap, token⟩ := part
      obtain ⟨blank, spelled, follows, legible⟩ := legible
      rw [text_cons]
      have spellsSomething : (text rest).length < (token.characters ++ text rest).length := by
        obtain ⟨first, tail, same, -⟩ := exists_start spelled
        rw [same, List.length_append, List.length_cons]
        omega
      cases token with
      | opening delimiter =>
          obtain ⟨row, scans, reads⟩ := inductionHypothesis legible balanced
          exact ⟨_, scans.opening blank legible.noComment, .cons rfl (by rintro _ - ⟨⟩) reads⟩
      | closing delimiter =>
          cases pending with
          | nil => contradiction
          | cons innermost outer =>
              obtain ⟨rfl, closed⟩ := Option.ite_none_right_eq_some.mp balanced
              obtain ⟨row, scans, reads⟩ := inductionHypothesis legible closed
              exact ⟨_, scans.closing blank, .cons rfl (by rintro _ - ⟨⟩) reads⟩
      | word name =>
          obtain ⟨row, scans, reads⟩ := inductionHypothesis legible balanced
          have stops := follows.stops legible (.inl ⟨name, rfl⟩)
          have leads := Scan.leads_word (Scan.ends_of_stops stops) spelled
          exact ⟨_, scans.leaf blank leads spellsSomething, .cons rfl (by rintro _ - ⟨⟩) reads⟩
      | literal spelling =>
          obtain ⟨row, scans, reads⟩ := inductionHypothesis legible balanced
          have leads := Scan.leads_literal (follows.stops legible (.inr ⟨spelling, rfl⟩))
            (beq_iff_eq.mp spelled)
          exact ⟨_, scans.leaf blank leads spellsSomething, .cons rfl (by rintro _ - ⟨⟩) reads⟩
      | mark char spacing =>
          obtain ⟨row, scans, reads⟩ := inductionHypothesis legible balanced
          rw [Token.isSpelled, Bool.and_eq_true] at spelled
          have isMark := List.contains_iff_mem.mp spelled.1
          by_cases quote : char = '\''
          · subst quote
            obtain ⟨name, more, found, stops, word⟩ := follows.quoted legible
            have leads := Scan.leads_quote stops word
            rw [← found] at leads
            exact ⟨_, scans.leaf blank leads spellsSomething, .cons rfl (fun _ _ _ => rfl) reads⟩
          · have leads := Scan.leads_mark isMark quote (follows.noComment legible)
            have joint := follows.joint legible quote
            refine ⟨_, scans.leaf blank leads spellsSomething, .cons rfl ?_ reads⟩
            intro next member runs
            rw [joint next member runs, if_pos rfl, Token.runsOn, beq_self_eq_true, Bool.or_true]

end Spaced

end Scaffold.Source
