import Scaffold.Proofs.Source.Spaced
import Scaffold.Proofs.Text.Compaction

/-!
Contract: legible text with blanks taken away.

Owns:
- the characters of a token in which no blank is taken away;
- the tokens that are left when a blank is taken away between them.

Does not own: the blank in front of the first token.
-/

namespace Scaffold.Source

open Scaffold.Text

/-! ### Texts that are left alone -/

/-- Is no blank taken away in a text or at its end? `before` is what was passed, the last character
first. -/
def isQuietFrom (before : List Char) : List Char → Bool
  | [] =>
      match before with
      | last :: _ => !isBlank last && !([':', '&', '*', '<', '('].contains last)
      | [] => false
  | char :: rest => !(char == ' ' && isLoose before rest) && isQuietFrom (char :: before) rest

/-- Is the token left alone by the replacements? Only a literal can hold what they take away. -/
def Token.isQuiet : Token → Bool
  | .literal text => isQuietFrom [] text.toList
  | _ => true

theorem exists_behind_of_hard
    {before text rest shorter : List Char}
    (sheds : Sheds before (text ++ rest) shorter)
    (hard : ∀ char ∈ text, char ≠ ' ') :
    ∃ behind, shorter = text ++ behind ∧ Sheds (text.reverse ++ before) rest behind := by
  induction text generalizing before shorter with
  | nil => exact ⟨shorter, rfl, sheds⟩
  | cons char text inductionHypothesis =>
      cases sheds with
      | keep kept =>
          obtain ⟨behind, rfl, found⟩ := inductionHypothesis kept
            fun other member => hard other (List.mem_cons_of_mem _ member)
          refine ⟨behind, rfl, ?_⟩
          rwa [List.reverse_cons, List.append_assoc, List.singleton_append]
      | shed loose _ => exact absurd rfl (hard ' ' List.mem_cons_self)

theorem isLooseBehind_cons_cons (last other : Char) (before : List Char) :
    isLooseBehind (last :: other :: before)
      = ((last == ':' && other == ':') || ['&', '*', '<', '('].contains last) := by
  by_cases colon : last = ':' <;> by_cases second : other = ':' <;>
    simp_all [isLooseBehind]

theorem isLooseBehind_singleton {last : Char} (firm : last ≠ ':') (before : List Char) :
    isLooseBehind (last :: before) = ['&', '*', '<', '('].contains last := by
  simp [isLooseBehind, firm]

theorem isLooseAhead_cons_cons (first second : Char) (after : List Char) :
    isLooseAhead (first :: second :: after)
      = ((first == ':' && (second == ':' || second == ' '))
        || [',', '<', '>', ')'].contains first) := by
  by_cases colon : first = ':' <;> by_cases other : second = ':' <;> by_cases blank : second = ' ' <;>
    simp_all [isLooseAhead]

theorem isLooseAhead_singleton {first : Char} (firm : first ≠ ':') (after : List Char) :
    isLooseAhead (first :: after) = [',', '<', '>', ')'].contains first := by
  simp [isLooseAhead, firm]

theorem isLooseBehind_append
    {passed before : List Char}
    (firm : passed.getLast? ≠ some ':')
    (nonempty : passed ≠ []) :
    isLooseBehind (passed ++ before) = isLooseBehind passed := by
  match passed with
  | [] => contradiction
  | [last] =>
      have noColon : last ≠ ':' := fun same => firm (congrArg some same)
      rw [List.singleton_append, isLooseBehind_singleton noColon, isLooseBehind_singleton noColon]
  | last :: other :: passed =>
      rw [List.cons_append, List.cons_append, isLooseBehind_cons_cons, isLooseBehind_cons_cons]

theorem isLooseAhead_append
    {text rest : List Char}
    (firm : text.getLast? ≠ some ':')
    (nonempty : text ≠ []) :
    isLooseAhead (text ++ rest) = isLooseAhead text := by
  match text with
  | [] => contradiction
  | [first] =>
      have noColon : first ≠ ':' := fun same => firm (congrArg some same)
      rw [List.singleton_append, isLooseAhead_singleton noColon, isLooseAhead_singleton noColon]
  | first :: second :: text =>
      rw [List.cons_append, List.cons_append, isLooseAhead_cons_cons, isLooseAhead_cons_cons]

/-- A quiet text does not end in what lets a blank behind it be taken away. -/
theorem last_of_isQuietFrom
    {passed text : List Char}
    (quiet : isQuietFrom passed text = true) :
    ∃ last before, text.reverse ++ passed = last :: before ∧ isBlank last = false
      ∧ last ∉ [':', '&', '*', '<', '('] := by
  induction text generalizing passed with
  | nil =>
      cases passed with
      | nil => contradiction
      | cons last before =>
          rw [isQuietFrom, Bool.and_eq_true, Bool.not_eq_true', Bool.not_eq_true'] at quiet
          refine ⟨last, before, rfl, quiet.1, ?_⟩
          intro member
          rw [List.contains_iff_mem.mpr member] at quiet
          exact absurd quiet.2 (by decide)
  | cons char text inductionHypothesis =>
      rw [isQuietFrom, Bool.and_eq_true] at quiet
      obtain ⟨last, before, same, found⟩ := inductionHypothesis quiet.2
      refine ⟨last, before, ?_, found⟩
      rw [List.reverse_cons, List.append_assoc, List.singleton_append, same]

theorem exists_behind_of_quiet
    {passed before text rest shorter : List Char}
    (sheds : Sheds (passed ++ before) (text ++ rest) shorter)
    (firm : passed.getLast? ≠ some ':')
    (nonempty : passed ≠ [])
    (quiet : isQuietFrom passed text = true) :
    ∃ behind, shorter = text ++ behind ∧ Sheds (text.reverse ++ (passed ++ before)) rest behind := by
  induction text generalizing passed shorter with
  | nil => exact ⟨shorter, rfl, sheds⟩
  | cons char text inductionHypothesis =>
      have ends := last_of_isQuietFrom quiet
      rw [isQuietFrom, Bool.and_eq_true] at quiet
      cases sheds with
      | keep kept =>
          have firm : (char :: passed).getLast? ≠ some ':' := by
            rwa [List.getLast?_cons_of_ne_nil nonempty]
          rw [← List.cons_append] at kept
          obtain ⟨behind, rfl, found⟩ :=
            inductionHypothesis kept firm (List.cons_ne_nil _ _) quiet.2
          refine ⟨behind, rfl, ?_⟩
          rwa [List.reverse_cons, List.append_assoc, List.singleton_append]
      | shed loose _ =>
          have tight : isLoose passed text = false := by simpa using quiet.1
          obtain ⟨last, left, same, solid, noMark⟩ := ends
          have lastOfText : text.reverse.head? = some last := by
            cases reversed : text.reverse with
            | nil =>
                rw [List.reverse_cons, reversed] at same
                obtain ⟨rfl, -⟩ := List.cons.inj same
                exact absurd solid (by decide)
            | cons final tail =>
                rw [List.reverse_cons, reversed] at same
                exact congrArg some (List.cons.inj same).1
          rw [List.head?_reverse] at lastOfText
          have firmText : text.getLast? ≠ some ':' := by
            rw [lastOfText]
            rintro ⟨⟩
            exact noMark (by decide)
          have something : text ≠ [] := by
            rintro rfl
            contradiction
          change isLoose (passed ++ before) (text ++ rest) = true at loose
          rw [isLoose, isLooseBehind_append firm nonempty, isLooseAhead_append firmText something,
            ← isLoose, tight] at loose
          contradiction

/-! ### Tokens that are left alone -/

/-- The characters of words, the hash mark of raw ones among them. -/
def isWordChar (char : Char) : Bool :=
  continuesIdentifier char || Literal.startsWord char || char == '#'

theorem isWordChar_of_isWord
    {name : String}
    (word : Scan.isWord name = true) :
    ∀ char ∈ name.toList, isWordChar char = true := by
  have plainChars {text : List Char} {plain : String}
      (read : Scan.plainWord? text = some (plain, [])) :
      ∀ char ∈ text, isWordChar char = true := by
    obtain ⟨first, tail, rfl, starts, -, nothing⟩ := Scan.startsWord_of_plainWord read
    intro char member
    rcases List.mem_cons.mp member with rfl | member
    · simp [isWordChar, starts]
    · have continues := List.dropWhile_eq_nil_iff.mp nothing.symm char member
      simp [isWordChar, continues]
  rcases Scan.anyWord?_eq_some (beq_iff_eq.mp word) with
    ⟨behind, plain, spelled, plainRead, -⟩ | ⟨-, plainRead⟩
  · rw [spelled]
    intro char member
    rcases List.mem_cons.mp member with rfl | member
    · decide
    · rcases List.mem_cons.mp member with rfl | member
      · decide
      · exact plainChars plainRead char member
  · exact plainChars plainRead

/-- The characters of the table of replacements. -/
def softChars : List Char :=
  [' ', ':', ',', '&', '*', '<', '>', '(', ')']

theorem not_soft_of_isWordChar
    {char : Char}
    (within : isWordChar char = true) :
    char ∉ softChars := by
  have checked : ∀ char ∈ softChars, isWordChar char = false :=
    forall_mem_of_all (by decide)
  intro member
  rw [checked char member] at within
  contradiction

/-- The replacements go over a token without a change. -/
theorem exists_behind_of_token
    {token : Token}
    {before rest shorter : List Char}
    (spelled : token.isSpelled = true)
    (quiet : token.isQuiet = true)
    (sheds : Sheds before (token.characters ++ rest) shorter) :
    ∃ behind, shorter = token.characters ++ behind
      ∧ Sheds (token.characters.reverse ++ before) rest behind := by
  cases token with
  | word name =>
      refine exists_behind_of_hard sheds fun char member => ?_
      rintro rfl
      exact not_soft_of_isWordChar (isWordChar_of_isWord spelled ' ' member) (by decide)
  | mark char spacing =>
      refine exists_behind_of_hard sheds fun other member => ?_
      rintro rfl
      obtain rfl : ' ' = char := List.mem_singleton.mp member
      rw [Token.isSpelled, Bool.and_eq_true] at spelled
      exact absurd spelled.1 (by decide)
  | opening delimiter =>
      exact exists_behind_of_hard sheds (by cases delimiter <;> exact forall_mem_of_all (by decide))
  | closing delimiter =>
      exact exists_behind_of_hard sheds (by cases delimiter <;> exact forall_mem_of_all (by decide))
  | literal text =>
      obtain ⟨first, tail, same, starts⟩ := Scan.exists_start_of_literal (beq_iff_eq.mp spelled)
      have firm : first ≠ ' ' ∧ first ≠ ':' := by
        constructor <;> rintro rfl <;> exact absurd starts (by decide)
      rw [Token.isQuiet, same, isQuietFrom, Bool.and_eq_true] at quiet
      rw [Token.characters, same] at sheds ⊢
      cases sheds with
      | shed loose _ => exact absurd rfl firm.1
      | keep kept =>
          rw [← List.singleton_append] at kept
          obtain ⟨behind, rfl, found⟩ := exists_behind_of_quiet kept
            (fun last => firm.2 (Option.some.inj last)) (List.cons_ne_nil _ _) quiet.2
          refine ⟨behind, rfl, ?_⟩
          rwa [List.reverse_cons, List.append_assoc]

theorem last_of_isLooseBehind
    {last : Char}
    {before : List Char}
    (loose : isLooseBehind (last :: before) = true) :
    last ∈ [':', '&', '*', '<', '('] := by
  by_cases colon : last = ':'
  · rw [colon]
    decide
  · rw [isLooseBehind_singleton colon] at loose
    exact List.mem_cons_of_mem _ (List.contains_iff_mem.mp loose)

theorem first_of_isLooseAhead
    {first : Char}
    {after : List Char}
    (loose : isLooseAhead (first :: after) = true) :
    first ∈ [':', ',', '<', '>', ')'] := by
  by_cases colon : first = ':'
  · rw [colon]
    decide
  · rw [isLooseAhead_singleton colon] at loose
    exact List.mem_cons_of_mem _ (List.contains_iff_mem.mp loose)

theorem opensBehind_of_isLooseBehind
    {token : Token}
    {before : List Char}
    (spelled : token.isSpelled = true)
    (quiet : token.isQuiet = true)
    (loose : isLooseBehind (token.characters.reverse ++ before) = true) :
    token.opensBehind = true := by
  cases token with
  | opening delimiter => rfl
  | closing delimiter =>
      cases delimiter <;> exact absurd (last_of_isLooseBehind loose) (by decide)
  | word name =>
      obtain ⟨first, tail, same, -⟩ :=
        Scan.exists_start_of_isWord (Scan.ends_of_stops stops_nil) spelled
      obtain ⟨last, init, reversed⟩ : ∃ last init, name.toList.reverse = last :: init :=
        List.exists_cons_of_ne_nil (by rw [same]; simp)
      rw [Token.characters, reversed] at loose
      have member : last ∈ name.toList := by
        rw [← List.mem_reverse, reversed]
        exact List.mem_cons_self
      have soft : ∀ char ∈ [':', '&', '*', '<', '('], char ∈ softChars :=
        forall_mem_of_all (by decide)
      exact absurd (soft last (last_of_isLooseBehind loose))
        (not_soft_of_isWordChar (isWordChar_of_isWord spelled last member))
  | literal text =>
      obtain ⟨last, init, reversed, -, noMark⟩ := last_of_isQuietFrom quiet
      rw [List.append_nil] at reversed
      rw [Token.characters, reversed] at loose
      exact absurd (last_of_isLooseBehind loose) noMark
  | mark char spacing =>
      cases spacing with
      | joint => rfl
      | alone =>
          have found := last_of_isLooseBehind loose
          rw [Token.isSpelled, Bool.and_eq_true] at spelled
          have noParenthesis : char ≠ '(' := by
            rintro rfl
            exact absurd spelled.1 (by decide)
          have others : ∀ char ∈ [':', '&', '*', '<', '('],
              char ≠ '(' → char ∈ [':', '&', '*', '<'] := forall_mem_of_all (by decide)
          exact List.contains_iff_mem.mpr (others char found noParenthesis)

theorem opensAhead_of_isLooseAhead
    {token : Token}
    {rest : List Char}
    (spelled : token.isSpelled = true)
    (loose : isLooseAhead (token.characters ++ rest) = true) :
    token.opensAhead = true := by
  cases token with
  | opening delimiter => rfl
  | closing delimiter => rfl
  | word name =>
      obtain ⟨first, tail, same, starts, -⟩ :=
        Scan.exists_start_of_isWord (Scan.ends_of_stops stops_nil) spelled
      rw [Token.characters, same] at loose
      have noStart : ∀ char ∈ [':', ',', '<', '>', ')'], Literal.startsWord char = false :=
        forall_mem_of_all (by decide)
      rw [noStart first (first_of_isLooseAhead loose)] at starts
      contradiction
  | literal text =>
      obtain ⟨first, tail, same, starts⟩ := Scan.exists_start_of_literal (beq_iff_eq.mp spelled)
      rw [Token.characters, same] at loose
      have noStart : ∀ char ∈ [':', ',', '<', '>', ')'],
          ¬(char ∈ Scan.literalStarts ∨ isAsciiDigit char = true) := forall_mem_of_all (by decide)
      exact absurd starts (noStart first (first_of_isLooseAhead loose))
  | mark char spacing =>
      have found := first_of_isLooseAhead loose
      rw [Token.isSpelled, Bool.and_eq_true] at spelled
      have noParenthesis : char ≠ ')' := by
        rintro rfl
        exact absurd spelled.1 (by decide)
      have others : ∀ char ∈ [':', ',', '<', '>', ')'],
          char ≠ ')' → char ∈ [':', ',', ';', '<', '>'] := forall_mem_of_all (by decide)
      exact List.contains_iff_mem.mpr (others char found noParenthesis)

theorem mayTouch_of_isLoose
    {left right : Token}
    {before rest : List Char}
    (spelledLeft : left.isSpelled = true)
    (quietLeft : left.isQuiet = true)
    (spelledRight : right.isSpelled = true)
    (loose : isLoose (left.characters.reverse ++ before) (right.characters ++ rest) = true) :
    left.mayTouch right = true := by
  rw [isLoose, Bool.or_eq_true] at loose
  rw [Token.mayTouch, Bool.or_eq_true]
  rcases loose with behind | ahead
  · exact .inl (opensBehind_of_isLooseBehind spelledLeft quietLeft behind)
  · exact .inr (opensAhead_of_isLooseAhead spelledRight ahead)

namespace Spaced

/-- The replacements leave legible text legible, with the same tokens. -/
theorem exists_closer
    {left : Token}
    {spaced : List Spaced}
    {before shorter : List Char}
    (spelled : left.isSpelled = true)
    (quiet : left.isQuiet = true)
    (follows : Follows left spaced)
    (legible : Legible spaced)
    (quietRest : ∀ part ∈ spaced, part.token.isQuiet = true)
    (single : ∀ part ∈ spaced, part.gap = [] ∨ part.gap = [' '])
    (sheds : Sheds (left.characters.reverse ++ before) (text spaced) shorter) :
    ∃ closer, shorter = text closer ∧ closer.map Spaced.token = spaced.map Spaced.token
      ∧ Follows left closer ∧ Legible closer
      ∧ ∀ part ∈ closer, part.gap = [] ∨ part.gap = [' '] := by
  induction spaced generalizing left before shorter with
  | nil =>
      cases sheds
      exact ⟨[], rfl, rfl, follows, trivial, single⟩
  | cons part rest inductionHypothesis =>
      obtain ⟨gap, token⟩ := part
      obtain ⟨blank, spelledToken, followsToken, legibleRest⟩ := legible
      have quietToken := quietRest _ List.mem_cons_self
      -- what is left of the text behind the gap, whether or not the gap is
      have behindGap {passed shorter : List Char}
          (sheds : Sheds passed (token.characters ++ text rest) shorter) :
          ∃ closer, shorter = token.characters ++ text closer
            ∧ closer.map Spaced.token = rest.map Spaced.token
            ∧ Follows token closer ∧ Legible closer
            ∧ ∀ part ∈ closer, part.gap = [] ∨ part.gap = [' '] := by
        obtain ⟨behind, rfl, shedsRest⟩ := exists_behind_of_token spelledToken quietToken sheds
        obtain ⟨closer, rfl, same, found⟩ := inductionHypothesis spelledToken quietToken followsToken
          legibleRest (fun part member => quietRest part (List.mem_cons_of_mem _ member))
          (fun part member => single part (List.mem_cons_of_mem _ member)) shedsRest
        exact ⟨closer, rfl, same, found⟩
      have close {gap : List Char} {closer : List Spaced} 
          (blank : ∀ char ∈ gap, Scan.isGap char = true)
          (isSingle : gap = [] ∨ gap = [' '])
          (followsGap : Follows left (⟨gap, token⟩ :: closer))
          (same : closer.map Spaced.token = rest.map Spaced.token)
          (followsCloser : Follows token closer)
          (legibleCloser : Legible closer)
          (singleCloser : ∀ part ∈ closer, part.gap = [] ∨ part.gap = [' ']) : 
          ∃ all : List Spaced, gap ++ (token.characters ++ text closer) = text all
            ∧ all.map Spaced.token = token :: rest.map Spaced.token
            ∧ Follows left all ∧ Legible all
            ∧ ∀ part ∈ all, part.gap = [] ∨ part.gap = [' '] := by
        refine ⟨⟨gap, token⟩ :: closer, (text_cons ⟨gap, token⟩ closer).symm,
          congrArg (token :: ·) same,
          followsGap, ⟨blank, spelledToken, followsCloser, legibleCloser⟩, ?_⟩
        intro part member
        rcases List.mem_cons.mp member with rfl | member
        · exact isSingle
        · exact singleCloser part member
      rw [text_cons] at sheds
      rcases single _ List.mem_cons_self with none | one
      · obtain rfl : gap = [] := none
        obtain ⟨closer, rfl, same, followsCloser, legibleCloser, singleCloser⟩ := behindGap sheds
        exact close blank (.inl rfl) follows same followsCloser legibleCloser singleCloser
      · obtain rfl : gap = [' '] := one
        cases sheds with
        | keep kept =>
            obtain ⟨closer, rfl, same, followsCloser, legibleCloser, singleCloser⟩ := behindGap kept
            exact close blank (.inr rfl) follows same followsCloser legibleCloser singleCloser
        | shed loose behind =>
            obtain ⟨closer, rfl, same, followsCloser, legibleCloser, singleCloser⟩ := behindGap behind
            have touch := mayTouch_of_isLoose spelled quiet spelledToken loose
            exact close (by simp) (.inl rfl) ⟨follows.1, fun _ => touch, fun _ => rfl⟩ same
              followsCloser legibleCloser singleCloser

end Spaced

end Scaffold.Source
