import Mathlib.Tactic.ByContra
import Scaffold.Source.Scan

/-!
Contract: literals in front of the characters that end them.

Owns:
- the characters that a word or a literal ends in front of, whatever it is;
- every part of the reader of literals in front of one of them;
- the literal that is read whole, with text behind it.

Does not own: which spellings are literals.
-/

namespace Scaffold.Source

open Scaffold.Text

/-! ### Stops -/

/-- A statement about each of some characters can be checked. -/
theorem forall_mem_of_all
    {chars : List Char}
    {holds : Char → Prop}
    [DecidablePred holds]
    (checked : (chars.all fun char => decide (holds char)) = true) :
    ∀ char ∈ chars, holds char := by
  intro char member
  exact of_decide_eq_true (List.all_eq_true.mp checked char member)

/-- The marks and delimiters that end a word or a literal right behind it. -/
def stopMarks : List Char :=
  [':', ',', ';', '<', '>', '(', ')', '[', ']', '\x7b', '\x7d']

/-- Does a word or a literal end in front of the character? -/
def isStop (char : Char) : Bool :=
  Scan.isGap char || stopMarks.contains char

/-- Does a text begin with the end of a word or a literal? -/
def Stops (text : List Char) : Prop :=
  ∀ char ∈ text.head?, isStop char = true

theorem stops_nil : Stops [] := by
  rintro _ ⟨⟩

/-- The code points of stops. -/
def stopCodes : List Nat :=
  [0x09, 0x0A, 0x0B, 0x0C, 0x0D, 0x20, 0x85, 0xA0, 0x1680, 0x2000, 0x2001, 0x2002, 0x2003, 0x2004,
    0x2005, 0x2006, 0x2007, 0x2008, 0x2009, 0x200A, 0x200E, 0x200F, 0x2028, 0x2029, 0x202F, 0x205F,
    0x3000] ++ stopMarks.map Char.toNat

theorem toNat_mem_stopCodes {char : Char} (stops : isStop char = true) :
    char.toNat ∈ stopCodes := by
  rw [isStop, Bool.or_eq_true] at stops
  rw [stopCodes, List.mem_append]
  rcases stops with gap | mark
  · left
    simp only [Scan.isGap, isBlank, Bool.or_eq_true, Bool.and_eq_true, decide_eq_true_eq,
      beq_iff_eq] at gap
    simp only [List.mem_cons, List.not_mem_nil, or_false]
    omega
  · right
    exact List.mem_map_of_mem (List.contains_iff_mem.mp mark)

/-- The characters that belong to a word or a literal, or join two marks to a comment. -/
def clings (char : Char) : Bool :=
  continuesIdentifier char || startsIdentifier char || (hexValue? char).isSome
    || ['_', '.', '"', '\'', '#', '\\', '+', '-', '/', '*'].contains char

set_option maxRecDepth 4000 in
theorem not_clings_of_stop {char : Char} (stops : isStop char = true) :
    clings char = false := by
  have checked : ∀ code ∈ stopCodes, clings (Char.ofNat code) = false := by
    decide
  have found := checked char.toNat (toNat_mem_stopCodes stops)
  rwa [Char.ofNat_toNat] at found

/-! ### Literals in front of a stop -/

namespace Literal

variable {rest : List Char}

theorem dropWhile_append_of_stops
    {belongs : Char → Bool}
    (stops : Stops rest)
    (within : ∀ char, belongs char = true → clings char = true)
    (text : List Char) :
    (text ++ rest).dropWhile belongs = text.dropWhile belongs ++ rest := by
  have kept : rest.dropWhile belongs = rest := by
    cases rest with
    | nil => rfl
    | cons char after =>
        have apart := not_clings_of_stop (stops char rfl)
        rw [List.dropWhile_cons_of_neg]
        intro belonging
        rw [within char belonging] at apart
        contradiction
  rw [List.dropWhile_append, kept]
  split
  · next empty => rw [List.isEmpty_iff.mp empty, List.nil_append]
  · rfl

theorem takeWhile_append_of_stops
    {belongs : Char → Bool}
    (stops : Stops rest)
    (within : ∀ char, belongs char = true → clings char = true)
    (text : List Char) :
    (text ++ rest).takeWhile belongs = text.takeWhile belongs := by
  have kept := dropWhile_append_of_stops stops within text
  have whole := List.takeWhile_append_dropWhile (p := belongs) (l := text ++ rest)
  have part := List.takeWhile_append_dropWhile (p := belongs) (l := text)
  rw [kept, ← List.append_assoc] at whole
  have same := List.append_cancel_right whole
  exact List.append_cancel_right (same.trans part.symm)

theorem clings_of_continues {char : Char} (continues : continuesIdentifier char = true) :
    clings char = true := by
  simp [clings, continues]

theorem clings_of_startsWord {char : Char} (starts : startsWord char = true) :
    clings char = true := by
  rw [startsWord, Bool.or_eq_true, beq_iff_eq] at starts
  rcases starts with rfl | starts
  · decide
  · simp [clings, starts]

theorem not_startsWord_of_stops
    {char : Char}
    {after : List Char}
    (stops : Stops (char :: after)) :
    startsWord char = false := by
  have apart := not_clings_of_stop (stops char rfl)
  rw [Bool.eq_false_iff]
  intro starts
  rw [clings_of_startsWord starts] at apart
  contradiction

theorem not_continues_of_stops
    {char : Char}
    {after : List Char}
    (stops : Stops (char :: after)) :
    continuesIdentifier char = false := by
  have apart := not_clings_of_stop (stops char rfl)
  rw [Bool.eq_false_iff]
  intro continues
  rw [clings_of_continues continues] at apart
  contradiction

theorem afterWord_append (stops : Stops rest) (text : List Char) :
    afterWord (text ++ rest) = (afterWord text).map (· ++ rest) := by
  cases text with
  | nil =>
      cases rest with
      | nil => rfl
      | cons char after =>
          simp [afterWord, not_startsWord_of_stops stops]
  | cons char text =>
      rw [List.cons_append, afterWord, afterWord]
      split
      · rw [dropWhile_append_of_stops stops (fun _ => clings_of_continues), Option.map_some]
      · rfl

theorem afterSuffix_append (stops : Stops rest) (text : List Char) :
    afterSuffix (text ++ rest) = afterSuffix text ++ rest := by
  rw [afterSuffix, afterSuffix, afterWord_append stops]
  cases afterWord text <;> rfl

theorem atWordBreak_append (stops : Stops rest) (text : List Char) :
    atWordBreak (text ++ rest) = (atWordBreak text).map (· ++ rest) := by
  cases text with
  | nil =>
      cases rest with
      | nil => rfl
      | cons char after => simp [atWordBreak, not_continues_of_stops stops]
  | cons char text =>
      rw [List.cons_append, atWordBreak, atWordBreak]
      split <;> rfl

theorem bracedScalar_append
    {count value found : Nat}
    {text after : List Char}
    (read : bracedScalar count value text = some (found, after)) :
    bracedScalar count value (text ++ rest) = some (found, after ++ rest) := by
  fun_induction bracedScalar count value text <;> simp_all [bracedScalar]

theorem scalarEscape_append
    {found : Nat}
    {text after : List Char}
    (read : scalarEscape text = some (found, after)) :
    scalarEscape (text ++ rest) = some (found, after ++ rest) := by
  cases text with
  | nil => simp [scalarEscape] at read
  | cons char text =>
      rw [scalarEscape] at read
      rw [List.cons_append, scalarEscape]
      split at read
      · next opened =>
          rw [if_pos opened]
          exact bracedScalar_append read
      · contradiction

theorem byteEscape_append
    {found : Nat}
    {text after : List Char}
    (read : byteEscape text = some (found, after)) :
    byteEscape (text ++ rest) = some (found, after ++ rest) := by
  match text with
  | [] => simp [byteEscape] at read
  | [_] => simp [byteEscape] at read
  | high :: low :: text =>
      simp only [byteEscape, Option.bind_eq_bind, Option.bind_eq_some_iff, Option.pure_def,
        Option.some.injEq, Prod.mk.injEq] at read
      obtain ⟨highValue, highRead, lowValue, lowRead, rfl, rfl⟩ := read
      simp [byteEscape, highRead, lowRead]

theorem afterContinuation_append
    {text after : List Char}
    (read : afterContinuation text = some after) :
    afterContinuation (text ++ rest) = some (after ++ rest) := by
  fun_induction afterContinuation text with
  | case1 => contradiction
  | case2 text inductionHypothesis => exact inductionHypothesis read
  | case3 text => contradiction
  | case4 char text noLineEnd noReturn blank inductionHypothesis =>
      rw [List.cons_append, afterContinuation, if_pos blank]
      · exact inductionHypothesis read
      · intro after same
        exact absurd same noReturn
      · exact noReturn
  | case5 char text noLineEnd noReturn plain =>
      cases read
      rw [List.cons_append, afterContinuation, if_neg plain]
      · intro after same
        exact absurd same noReturn
      · exact noReturn

theorem rawFence_append
    {fence : Nat}
    {text after : List Char}
    (read : rawFence text = some (fence, after)) :
    rawFence (text ++ rest) = some (fence, after ++ rest) := by
  fun_induction rawFence text generalizing fence with
  | case1 text =>
      cases read
      rfl
  | case2 text inductionHypothesis =>
      obtain ⟨found, foundRead, same⟩ := Option.map_eq_some_iff.mp read
      cases same
      rw [List.cons_append, rawFence, inductionHypothesis foundRead, Option.map_some]
  | case3 text => contradiction

theorem not_hash_of_stops
    {after : List Char}
    (stops : Stops rest) :
    rest ≠ '#' :: after := by
  rintro rfl
  exact absurd (stops '#' rfl) (by decide)

theorem afterHashes_append
    (stops : Stops rest)
    (count : Nat)
    (text : List Char) :
    afterHashes count (text ++ rest) = (afterHashes count text).map (· ++ rest) := by
  fun_induction afterHashes count text with
  | case1 text => rfl
  | case2 count text inductionHypothesis => exact inductionHypothesis
  | case3 count text noHash =>
      rw [Option.map_none, afterHashes]
      cases text with
      | nil => exact fun after => not_hash_of_stops stops
      | cons char text =>
          rintro after same
          cases same
          exact noHash text rfl

/-- More steps than a literal takes do no harm. -/
theorem afterCooked_append
    (stops : Stops rest)
    {sort : Quoted}
    {fuel extra : Nat}
    {text after : List Char}
    (read : afterCooked sort fuel text = some after) :
    afterCooked sort (extra + fuel) (text ++ rest) = some (after ++ rest) := by
  fun_induction afterCooked sort fuel text with
  | case1 | case2 | case5 | case11 | case13 => contradiction
  | case3 fuel text =>
      cases read
      exact congrArg some (afterSuffix_append stops text)
  | case4 fuel text inductionHypothesis => exact inductionHypothesis read
  | case6 fuel text inductionHypothesis =>
      obtain ⟨⟨value, behind⟩, escape, read⟩ := Option.bind_eq_some_iff.mp read
      obtain ⟨allowed, read⟩ := Option.ite_none_right_eq_some.mp read
      exact Option.bind_eq_some_iff.mpr
        ⟨_, byteEscape_append escape, (if_pos allowed).trans (inductionHypothesis behind read)⟩
  | case7 fuel text inductionHypothesis =>
      obtain ⟨⟨value, behind⟩, escape, read⟩ := Option.bind_eq_some_iff.mp read
      obtain ⟨allowed, read⟩ := Option.ite_none_right_eq_some.mp read
      exact Option.bind_eq_some_iff.mpr
        ⟨_, scalarEscape_append escape, (if_pos allowed).trans (inductionHypothesis behind read)⟩
  | case8 fuel text inductionHypothesis =>
      obtain ⟨behind, continued, read⟩ := Option.bind_eq_some_iff.mp read
      exact Option.bind_eq_some_iff.mpr
        ⟨_, afterContinuation_append continued, inductionHypothesis behind read⟩
  | case9 fuel text inductionHypothesis =>
      obtain ⟨behind, continued, read⟩ := Option.bind_eq_some_iff.mp read
      exact Option.bind_eq_some_iff.mpr
        ⟨_, afterContinuation_append continued, inductionHypothesis behind read⟩
  | case10 fuel char text notByte notScalar notLine notReturn simple inductionHypothesis =>
      rw [List.cons_append, List.cons_append, Nat.add_succ, afterCooked, if_pos simple]
      · exact inductionHypothesis read
      all_goals assumption
  | case12 fuel char text noQuote _ noReturn _ _ _ _ _ plain inductionHypothesis =>
      have noEscape : char ≠ '\\' := by
        rintro rfl
        simp at plain
      rw [List.cons_append, Nat.add_succ, afterCooked, if_pos plain]
      · exact inductionHypothesis read
      all_goals grind

theorem afterRawBody_append
    (stops : Stops rest)
    {sort : Quoted}
    {fence : Nat}
    {text after : List Char}
    (read : afterRawBody sort fence text = some after) :
    afterRawBody sort fence (text ++ rest) = some (after ++ rest) := by
  fun_induction afterRawBody sort fence text with
  | case1 | case3 | case7 => contradiction
  | case2 text inductionHypothesis => exact inductionHypothesis read
  | case4 text behind closed =>
      cases read
      simp only [List.cons_append, afterRawBody, afterHashes_append stops, closed, Option.map_some,
        afterSuffix_append stops]
  | case5 text unclosed inductionHypothesis =>
      simp only [List.cons_append, afterRawBody, afterHashes_append stops, unclosed,
        Option.map_none]
      exact inductionHypothesis read
  | case6 char text _ noReturn noQuote allowed inductionHypothesis => 
      rw [List.cons_append, afterRawBody, if_pos allowed]
      · exact inductionHypothesis read
      all_goals grind

theorem afterRaw_append
    (stops : Stops rest)
    {sort : Quoted}
    {text after : List Char}
    (read : afterRaw sort text = some after) :
    afterRaw sort (text ++ rest) = some (after ++ rest) := by
  obtain ⟨⟨fence, body⟩, fenced, read⟩ := Option.bind_eq_some_iff.mp read
  obtain ⟨bounded, read⟩ := Option.ite_none_left_eq_some.mp read
  exact Option.bind_eq_some_iff.mpr
    ⟨_, rawFence_append fenced, (if_neg bounded).trans (afterRawBody_append stops read)⟩

/-- What follows the closing quote and suffix of a character. -/
def afterClosing : List Char → Rest
  | '\'' :: after => some (afterSuffix after)
  | _ => none

/-- What follows the inside of a character. -/
def afterInside (sort : Quoted) : List Char → Rest
  | '\\' :: 'x' :: text =>
      (byteEscape text).bind fun escape =>
        if sort.allowsByte escape.1 then some escape.2 else none
  | '\\' :: 'u' :: text =>
      (scalarEscape text).bind fun escape => if sort = .text then some escape.2 else none
  | '\\' :: char :: text => if sort.allowsSimple char then some text else none
  | char :: text => if char != '\\' && sort.allowsChar char then some text else none
  | [] => none

theorem afterCharacter_eq (sort : Quoted) (text : List Char) :
    afterCharacter sort text = (afterInside sort text).bind afterClosing := by
  fun_cases afterInside sort text with
  | case1 text =>
      rw [afterCharacter]
      cases byteEscape text with
      | none => rfl
      | some escape =>
          by_cases allowed : sort.allowsByte escape.1 = true
          · exact (if_pos allowed).trans
              (congrArg (Option.bind · afterClosing) (if_pos allowed).symm)
          · exact (if_neg allowed).trans
              (congrArg (Option.bind · afterClosing) (if_neg allowed).symm)
  | case2 text =>
      rw [afterCharacter]
      cases scalarEscape text with
      | none => rfl
      | some escape =>
          by_cases allowed : sort = .text
          · exact (if_pos allowed).trans
              (congrArg (Option.bind · afterClosing) (if_pos allowed).symm)
          · exact (if_neg allowed).trans
              (congrArg (Option.bind · afterClosing) (if_neg allowed).symm)
  | case3 char text noByte noScalar simple =>
      rw [afterCharacter, if_pos simple]
      · rfl
      all_goals assumption
  | case4 char text noByte noScalar unknown =>
      rw [afterCharacter, if_neg unknown]
      · rfl
      all_goals assumption
  | case5 char text noByte noScalar noEscape plain =>
      rw [afterCharacter, if_pos plain]
      · rfl
      all_goals assumption
  | case6 char text noByte noScalar noEscape refused =>
      rw [afterCharacter, if_neg refused]
      · rfl
      all_goals assumption
  | case7 => rfl

theorem afterInside_append
    {sort : Quoted}
    {text after : List Char}
    (read : afterInside sort text = some after) :
    afterInside sort (text ++ rest) = some (after ++ rest) := by
  fun_cases afterInside sort text with
  | case1 text =>
      obtain ⟨escape, escapeRead, value⟩ := Option.bind_eq_some_iff.mp read
      obtain ⟨allowed, same⟩ := Option.ite_none_right_eq_some.mp value
      rw [← Option.some.inj same]
      exact Option.bind_eq_some_iff.mpr ⟨(escape.1, escape.2 ++ rest), byteEscape_append escapeRead, if_pos allowed⟩
  | case2 text =>
      obtain ⟨escape, escapeRead, value⟩ := Option.bind_eq_some_iff.mp read
      obtain ⟨allowed, same⟩ := Option.ite_none_right_eq_some.mp value
      rw [← Option.some.inj same]
      exact Option.bind_eq_some_iff.mpr ⟨(escape.1, escape.2 ++ rest), scalarEscape_append escapeRead, if_pos allowed⟩
  | case3 char text noByte noScalar simple =>
      rw [afterInside, if_pos simple] at read
      · cases read
        rw [List.cons_append, List.cons_append, afterInside, if_pos simple]
        all_goals assumption
      all_goals assumption
  | case4 char text noByte noScalar unknown =>
      rw [afterInside, if_neg unknown] at read
      · contradiction
      all_goals assumption
  | case5 char text noByte noScalar noEscape plain =>
      have noBackslash : char ≠ '\\' := by
        rintro rfl
        simp at plain
      rw [afterInside, if_pos plain] at read
      · cases read
        rw [List.cons_append, afterInside, if_pos plain]
        all_goals grind
      all_goals assumption
  | case6 char text noByte noScalar noEscape refused =>
      rw [afterInside, if_neg refused] at read
      · contradiction
      all_goals assumption
  | case7 => contradiction

theorem afterClosing_append
    (stops : Stops rest)
    {text after : List Char}
    (read : afterClosing text = some after) :
    afterClosing (text ++ rest) = some (after ++ rest) := by
  fun_cases afterClosing text with
  | case1 text =>
      cases read
      exact congrArg some (afterSuffix_append stops text)
  | case2 => simp_all [afterClosing]

theorem afterCharacter_append
    (stops : Stops rest)
    {sort : Quoted}
    {text after : List Char}
    (read : afterCharacter sort text = some after) :
    afterCharacter sort (text ++ rest) = some (after ++ rest) := by
  rw [afterCharacter_eq] at read ⊢
  obtain ⟨behind, inside, read⟩ := Option.bind_eq_some_iff.mp read
  rw [afterInside_append inside, Option.bind_some]
  exact afterClosing_append stops read

theorem afterQuoted_append
    (stops : Stops rest)
    {text after : List Char}
    (read : afterQuoted text = some after) :
    afterQuoted (text ++ rest) = some (after ++ rest) := by
  have shifted (text : List Char) :
      (text ++ rest).length + 1 = rest.length + (text.length + 1) := by
    rw [List.length_append]
    omega
  fun_cases afterQuoted text with
  | case1 text | case3 text | case5 text =>
      simp only [List.cons_append, afterQuoted, shifted]
      exact afterCooked_append stops read
  | case2 text | case4 text | case6 text => exact afterRaw_append stops read
  | case7 text | case8 text => exact afterCharacter_append stops read
  | case9 => simp_all [afterQuoted]

/-! ### Numbers in front of a stop -/

theorem clings_of_isDigitOrUnderscore
    {char : Char}
    (digit : (isAsciiDigit char || char == '_') = true) :
    clings char = true := by
  rw [Bool.or_eq_true, beq_iff_eq] at digit
  rcases digit with digit | rfl
  · simp only [isAsciiDigit, Bool.and_eq_true, decide_eq_true_eq] at digit
    have ascii : char.toNat < 0x80 := by omega
    apply clings_of_continues
    simp [continuesIdentifier, isAsciiDigit, ascii, digit]
  · decide

theorem afterDigits_append (stops : Stops rest) (text : List Char) :
    afterDigits (text ++ rest) = afterDigits text ++ rest :=
  dropWhile_append_of_stops stops (fun _ => clings_of_isDigitOrUnderscore) text

theorem ne_of_stops
    {char : Char}
    {after : List Char}
    (stops : Stops rest)
    (clinging : clings char = true) :
    rest ≠ char :: after := by
  rintro rfl
  have apart := not_clings_of_stop (stops char rfl)
  rw [clinging] at apart
  contradiction

/-- The text behind the sign of an exponent. -/
def behindSign : List Char → List Char
  | '+' :: rest => rest
  | '-' :: rest => rest
  | rest => rest

theorem afterExponent_eq (text : List Char) :
    afterExponent text =
      if ((behindSign (text.dropWhile (· == '_'))).takeWhile
          fun char => isAsciiDigit char || char == '_').any isAsciiDigit then
        some (afterDigits (behindSign (text.dropWhile (· == '_'))))
      else none := by
  rfl

theorem behindSign_append (stops : Stops rest) (text : List Char) :
    behindSign (text ++ rest) = behindSign text ++ rest := by
  fun_cases behindSign text with
  | case1 text | case2 text => rfl
  | case3 text noPlus noMinus =>
      cases text with
      | nil =>
          rw [List.nil_append, behindSign]
          · exact fun after => ne_of_stops stops (by decide)
          · exact fun after => ne_of_stops stops (by decide)
      | cons char text =>
          rw [List.cons_append, behindSign]
          · rintro after same
            cases same
            exact noPlus text rfl
          · rintro after same
            cases same
            exact noMinus text rfl

theorem afterExponent_append (stops : Stops rest) (text : List Char) :
    afterExponent (text ++ rest) = (afterExponent text).map (· ++ rest) := by
  have underscores (text : List Char) :
      (text ++ rest).dropWhile (· == '_') = text.dropWhile (· == '_') ++ rest := by
    apply dropWhile_append_of_stops stops
    intro char same
    rw [beq_iff_eq.mp same]
    decide
  rw [afterExponent_eq, afterExponent_eq, underscores, behindSign_append stops,
    takeWhile_append_of_stops stops (fun _ => clings_of_isDigitOrUnderscore),
    afterDigits_append stops]
  split <;> rfl

theorem afterIntegerDigits_append
    (stops : Stops rest)
    (base : Nat)
    (empty : Bool)
    (text : List Char) :
    afterIntegerDigits base empty (text ++ rest)
      = (afterIntegerDigits base empty text).map (· ++ rest) := by
  induction text generalizing empty with
  | nil =>
      cases rest with
      | nil => cases empty <;> rfl
      | cons char after =>
          have noUnderscore : char ≠ '_' := by
            rintro rfl
            exact ne_of_stops stops (by decide) rfl
          have noDigit : hexValue? char = none := by
            have apart := not_clings_of_stop (stops char rfl)
            simp only [clings, Bool.or_eq_false_iff, Option.isSome_eq_false_iff,
              Option.isNone_iff_eq_none] at apart
            exact apart.1.2
          cases empty <;> simp [afterIntegerDigits, noUnderscore, noDigit]
  | cons char text inductionHypothesis =>
      rw [List.cons_append, afterIntegerDigits, afterIntegerDigits]
      by_cases underscore : char = '_'
      · rw [if_pos underscore, if_pos underscore, inductionHypothesis]
        split <;> rfl
      · rw [if_neg underscore, if_neg underscore]
        cases hexValue? char with
        | none => cases empty <;> rfl
        | some digit =>
            by_cases fits : digit < base
            · simp only [fits, if_true]
              exact inductionHypothesis false
            · simp only [fits, if_false]
              split
              · rfl
              · cases empty <;> rfl

theorem numberBase_append (stops : Stops rest) (text : List Char) :
    numberBase (text ++ rest) = ((numberBase text).1, (numberBase text).2 ++ rest) := by
  fun_cases numberBase text with
  | case1 text | case2 text | case3 text => rfl
  | case4 text noHex noOctal noBinary =>
      match text with
      | [] =>
          rw [List.nil_append, numberBase]
          all_goals exact fun after => ne_of_stops stops (by decide)
      | [char] =>
          rw [List.cons_append, List.nil_append, numberBase]
          all_goals
            rintro after same
            obtain ⟨-, same⟩ := List.cons.inj same
            exact ne_of_stops stops (by decide) same
      | first :: second :: text =>
          rw [List.cons_append, List.cons_append, numberBase]
          · rintro after same
            cases same
            exact noHex text rfl
          · rintro after same
            cases same
            exact noOctal text rfl
          · rintro after same
            cases same
            exact noBinary text rfl

theorem afterInteger_eq (text : List Char) :
    afterInteger text
      = (afterIntegerDigits (numberBase text).1 true (numberBase text).2).bind
          fun after => atWordBreak (afterSuffix after) := by
  rfl

theorem afterInteger_append (stops : Stops rest) (text : List Char) :
    afterInteger (text ++ rest) = (afterInteger text).map (· ++ rest) := by
  rw [afterInteger_eq, afterInteger_eq, numberBase_append stops, afterIntegerDigits_append stops]
  cases afterIntegerDigits (numberBase text).1 true (numberBase text).2 with
  | none => rfl
  | some after =>
      rw [Option.map_some, Option.bind_some, Option.bind_some, afterSuffix_append stops,
        atWordBreak_append stops]

/-- Does a text begin with what a point does not count in front of? -/
def blocksPoint : List Char → Bool
  | next :: _ => next == '.' || startsWord next
  | [] => false

/-- What follows the exponent of a number with a point, if it has one. -/
def behindFraction (text : List Char) : List Char :=
  match text with
  | 'e' :: exponent => (afterExponent exponent).getD text
  | 'E' :: exponent => (afterExponent exponent).getD text
  | _ => text

/-- What follows a floating point number behind its first digits. -/
def behindDigits : List Char → Rest
  | '.' :: fraction =>
      if blocksPoint fraction then none else some (behindFraction (afterDigits fraction))
  | 'e' :: exponent => afterExponent exponent
  | 'E' :: exponent => afterExponent exponent
  | _ => none

theorem afterFloatDigits_cons (first : Char) (text : List Char) :
    afterFloatDigits (first :: text)
      = if isAsciiDigit first then behindDigits (afterDigits text) else none := by
  rw [afterFloatDigits]
  split
  · generalize afterDigits text = behind
    fun_cases behindDigits behind with
    | case1 fraction blocked =>
        cases fraction with
        | nil => contradiction
        | cons next fraction => exact if_pos blocked
    | case2 fraction plain =>
        have named (behind : List Char) :
            (match behind with
              | 'e' :: exponent => some ((afterExponent exponent).getD behind)
              | 'E' :: exponent => some ((afterExponent exponent).getD behind)
              | _ => some behind) = some (behindFraction behind) := by
          fun_cases behindFraction behind with
          | case1 exponent | case2 exponent => rfl
          | case3 behind noSmall noCapital =>
              split
              · exact absurd rfl (noSmall _)
              · exact absurd rfl (noCapital _)
              · rfl
        cases fraction with
        | nil => rfl
        | cons next fraction =>
            exact (if_neg plain).trans (named (afterDigits (next :: fraction)))
    | case3 exponent | case4 exponent => rfl
    | case5 behind noPoint noSmall noCapital =>
        split
        · exact absurd rfl (noPoint _)
        · exact absurd rfl (noSmall _)
        · exact absurd rfl (noCapital _)
        · rfl
  · rfl

theorem blocksPoint_append (stops : Stops rest) (text : List Char) :
    blocksPoint (text ++ rest) = blocksPoint text := by
  cases text with
  | cons char text => rfl
  | nil =>
      cases rest with
      | nil => rfl
      | cons char after =>
          have noPoint : char ≠ '.' := by
            rintro rfl
            exact ne_of_stops stops (by decide) rfl
          simp [blocksPoint, noPoint, not_startsWord_of_stops stops]

theorem behindFraction_append (stops : Stops rest) (text : List Char) :
    behindFraction (text ++ rest) = behindFraction text ++ rest := by
  fun_cases behindFraction text with
  | case1 exponent | case2 exponent =>
      rw [List.cons_append, behindFraction, afterExponent_append stops]
      cases afterExponent exponent <;> rfl
  | case3 text noSmall noCapital =>
      cases text with
      | nil =>
          rw [List.nil_append, behindFraction]
          all_goals exact fun after => ne_of_stops stops (by decide)
      | cons char text =>
          rw [List.cons_append, behindFraction]
          · rintro after same
            cases same
            exact noSmall text rfl
          · rintro after same
            cases same
            exact noCapital text rfl

theorem behindDigits_append (stops : Stops rest) (text : List Char) :
    behindDigits (text ++ rest) = (behindDigits text).map (· ++ rest) := by
  fun_cases behindDigits text with
  | case1 fraction blocked =>
      rw [List.cons_append, behindDigits, blocksPoint_append stops, if_pos blocked]
      rfl
  | case2 fraction plain =>
      rw [List.cons_append, behindDigits, blocksPoint_append stops, if_neg plain,
        afterDigits_append stops, behindFraction_append stops]
      rfl
  | case3 exponent | case4 exponent => exact afterExponent_append stops exponent
  | case5 text noPoint noSmall noCapital =>
      cases text with
      | nil =>
          rw [List.nil_append, behindDigits]
          · rfl
          all_goals exact fun after => ne_of_stops stops (by decide)
      | cons char text =>
          rw [List.cons_append, behindDigits]
          · rfl
          · rintro after same
            cases same
            exact noPoint text rfl
          · rintro after same
            cases same
            exact noSmall text rfl
          · rintro after same
            cases same
            exact noCapital text rfl

theorem afterFloatDigits_append (stops : Stops rest) (text : List Char) :
    afterFloatDigits (text ++ rest) = (afterFloatDigits text).map (· ++ rest) := by
  cases text with
  | nil =>
      cases rest with
      | nil => rfl
      | cons char after =>
          have noDigit : ¬isAsciiDigit char = true := by
            intro digit
            have apart := not_clings_of_stop (stops char rfl)
            rw [clings_of_isDigitOrUnderscore (by rw [digit, Bool.true_or])] at apart
            contradiction
          rw [List.nil_append, afterFloatDigits_cons, if_neg noDigit]
          rfl
  | cons first text =>
      rw [List.cons_append, afterFloatDigits_cons, afterFloatDigits_cons, afterDigits_append stops,
        behindDigits_append stops]
      split <;> rfl

theorem afterFloat_append (stops : Stops rest) (text : List Char) :
    afterFloat (text ++ rest) = (afterFloat text).map (· ++ rest) := by
  have read (text : List Char) :
      afterFloat text
        = (afterFloatDigits text).bind fun after => atWordBreak (afterSuffix after) := by
    rfl
  rw [read, read, afterFloatDigits_append stops]
  cases afterFloatDigits text with
  | none => rfl
  | some after =>
      rw [Option.map_some, Option.bind_some, Option.bind_some, afterSuffix_append stops,
        atWordBreak_append stops]

/-! ### Any literal in front of a stop -/

theorem afterQuoted_of_other
    {first : Char}
    (other : first ∉ ['"', 'r', 'b', 'c', '\''])
    (text : List Char) :
    afterQuoted (first :: text) = none := by
  unfold afterQuoted
  split <;> simp_all

theorem exists_digit_of_afterFloat
    {text behind : List Char}
    (read : afterFloat text = some behind) :
    ∃ first digits, text = first :: digits ∧ isAsciiDigit first = true := by
  cases text with
  | nil => contradiction
  | cons first digits =>
      refine ⟨first, digits, rfl, ?_⟩
      obtain ⟨found, found_eq, -⟩ := Option.bind_eq_some_iff.mp read
      rw [afterFloatDigits_cons] at found_eq
      exact (Option.ite_none_right_eq_some.mp found_eq).1

theorem isAsciiDigit_of_hexValue
    {first : Char}
    {digit : Nat}
    (value : hexValue? first = some digit)
    (decimal : digit < 10) :
    isAsciiDigit first = true := by
  simp only [hexValue?, Bool.and_eq_true, decide_eq_true_eq] at value
  simp only [isAsciiDigit, Bool.and_eq_true, decide_eq_true_eq]
  split at value
  · omega
  · split at value
    · have same := Option.some.inj value
      omega
    · obtain ⟨range, same⟩ := Option.ite_none_right_eq_some.mp value
      have same := Option.some.inj same
      omega

theorem exists_digit_of_afterInteger
    {text behind : List Char}
    (read : afterInteger text = some behind) :
    ∃ first digits, text = first :: digits ∧ isAsciiDigit first = true := by
  rw [afterInteger_eq] at read
  obtain ⟨found, found_eq, -⟩ := Option.bind_eq_some_iff.mp read
  fun_cases numberBase text with
  | case1 digits | case2 digits | case3 digits => exact ⟨_, _, rfl, by decide⟩
  | case4 text noHex noOctal noBinary =>
      rw [numberBase] at found_eq
      · cases text with
        | nil => contradiction
        | cons first digits =>
            refine ⟨first, digits, rfl, ?_⟩
            rw [afterIntegerDigits] at found_eq
            by_contra noDigit
            by_cases underscore : first = '_'
            · simp [underscore] at found_eq
            · rw [if_neg underscore] at found_eq
              cases value : hexValue? first with
              | none => simp [value] at found_eq
              | some digit =>
                  have large : ¬digit < 10 := fun decimal =>
                    noDigit (isAsciiDigit_of_hexValue value decimal)
                  simp [value, large] at found_eq
      all_goals assumption

theorem after_append
    (stops : Stops rest)
    {text behind : List Char}
    (read : after text = some behind) :
    after (text ++ rest) = some (behind ++ rest) := by
  rw [after] at read ⊢
  cases quoted : afterQuoted text with
  | some found =>
      rw [quoted] at read
      cases read
      rw [afterQuoted_append stops quoted]
      rfl
  | none =>
      rw [quoted] at read
      have number : ∃ first behind, text = first :: behind ∧ isAsciiDigit first = true := by
        cases float : afterFloat text with
        | some found => exact exists_digit_of_afterFloat float
        | none => 
            rw [float] at read
            exact exists_digit_of_afterInteger read
      obtain ⟨first, after, rfl, digit⟩ := number
      have other : first ∉ ['"', 'r', 'b', 'c', '\''] := by
        intro member
        simp only [isAsciiDigit, Bool.and_eq_true, decide_eq_true_eq] at digit
        simp only [List.mem_cons, List.not_mem_nil, or_false] at member
        rcases member with rfl | rfl | rfl | rfl | rfl <;> simp at digit
      rw [List.cons_append, afterQuoted_of_other other, ← List.cons_append,
        afterFloat_append stops, afterInteger_append stops]
      cases float : afterFloat (first :: after) with
      | some found => 
          rw [float] at read
          cases read
          rfl
      | none =>
          rw [float] at read
          simpa using read

/-! ### Literals in front of a point -/

theorem continues_of_startsWord {char : Char} (starts : startsWord char = true) :
    continuesIdentifier char = true := by
  rw [startsWord, Bool.or_eq_true, beq_iff_eq] at starts
  rcases starts with rfl | starts
  · decide
  · rw [startsIdentifier] at starts
    rw [continuesIdentifier]
    split
    · next ascii =>
        rw [if_pos ascii] at starts
        rw [starts, Bool.true_or, Bool.true_or]
    · next outside =>
        rw [if_neg outside] at starts
        rw [starts, Bool.true_or]

variable {digits rest : List Char}

theorem afterSuffix_of_noLetter
    (noLetter : ∀ char ∈ rest.head?, continuesIdentifier char = false) :
    afterSuffix rest = rest := by
  cases rest with
  | nil => rfl
  | cons char rest =>
      have noStart : startsWord char = false := by
        rw [Bool.eq_false_iff]
        intro starts
        have letter := noLetter char rfl
        rw [continues_of_startsWord starts] at letter
        contradiction
      simp [afterSuffix, afterWord, noStart]

/-- A decimal integer ends in front of the text: no letter follows it, and no point but one in front
of another point or a name. -/
structure EndsDigits (rest : List Char) : Prop where
  noLetter : ∀ char ∈ rest.head?, continuesIdentifier char = false
  noFraction : ∀ fraction, rest = '.' :: fraction → blocksPoint fraction = true

theorem hexValue_of_isAsciiDigit {char : Char} (digit : isAsciiDigit char = true) :
    ∃ value < 10, hexValue? char = some value := by
  simp only [isAsciiDigit, Bool.and_eq_true, decide_eq_true_eq] at digit
  refine ⟨char.toNat - 0x30, by omega, ?_⟩
  simp [hexValue?, digit]

theorem continues_of_hexValue
    {char : Char}
    {value : Nat}
    (read : hexValue? char = some value) :
    continuesIdentifier char = true := by
  have ascii : char.toNat < 0x80 ∧ (isAsciiLetter char || isAsciiDigit char) = true := by
    simp only [hexValue?, Bool.and_eq_true, decide_eq_true_eq] at read
    simp only [isAsciiLetter, isAsciiDigit, Bool.or_eq_true, Bool.and_eq_true, decide_eq_true_eq]
    split at read
    · omega
    · split at read
      · omega
      · obtain ⟨range, -⟩ := Option.ite_none_right_eq_some.mp read
        omega
  rw [continuesIdentifier, if_pos ascii.1, ascii.2, Bool.true_or]

theorem noDigit_of_noLetter
    (noLetter : ∀ char ∈ rest.head?, continuesIdentifier char = false)
    {char : Char}
    (first : char ∈ rest.head?) :
    char ≠ '_' ∧ hexValue? char = none ∧ isAsciiDigit char = false := by
  have outside := noLetter char first
  have noHex : ∀ value, hexValue? char ≠ some value := by
    intro value read
    rw [continues_of_hexValue read] at outside
    contradiction
  refine ⟨?_, Option.eq_none_iff_forall_ne_some.mpr noHex, ?_⟩
  · rintro rfl
    exact absurd outside (by decide)
  · rw [Bool.eq_false_iff]
    intro digit
    obtain ⟨value, -, read⟩ := hexValue_of_isAsciiDigit digit
    exact noHex value read

theorem afterIntegerDigits_of_digits
    (all : ∀ char ∈ digits, isAsciiDigit char = true)
    (noLetter : ∀ char ∈ rest.head?, continuesIdentifier char = false)
    (empty : Bool)
    (something : digits ≠ [] ∨ empty = false) :
    afterIntegerDigits 10 empty (digits ++ rest) = some rest := by
  induction digits generalizing empty with
  | nil =>
      obtain rfl : empty = false := something.resolve_left (fun none => none rfl)
      cases rest with
      | nil => rfl
      | cons char rest =>
          obtain ⟨noUnderscore, noValue, -⟩ := noDigit_of_noLetter noLetter (rfl : some char = some char)
          simp [afterIntegerDigits, noUnderscore, noValue]
  | cons digit digits inductionHypothesis =>
      rw [List.forall_mem_cons] at all
      obtain ⟨value, decimal, read⟩ := hexValue_of_isAsciiDigit all.1
      have noUnderscore : digit ≠ '_' := by
        rintro rfl
        exact absurd all.1 (by decide)
      rw [List.cons_append, afterIntegerDigits, if_neg noUnderscore, read]
      simp only [decimal, if_true]
      exact inductionHypothesis all.2 false (.inr rfl)

theorem afterDigits_of_digits
    (all : ∀ char ∈ digits, isAsciiDigit char = true)
    (noLetter : ∀ char ∈ rest.head?, continuesIdentifier char = false) :
    afterDigits (digits ++ rest) = rest := by
  rw [afterDigits, List.dropWhile_append_of_pos (fun char member => by rw [all char member, Bool.true_or])]
  cases rest with
  | nil => rfl
  | cons char rest =>
      obtain ⟨noUnderscore, -, noDigit⟩ := noDigit_of_noLetter noLetter (rfl : some char = some char)
      simp [noUnderscore, noDigit]

/-- What follows a decimal integer without a suffix. -/
theorem after_digits
    (something : digits ≠ [])
    (all : ∀ char ∈ digits, isAsciiDigit char = true)
    (ends : EndsDigits rest) :
    after (digits ++ rest) = some rest := by
  cases digits with
  | nil => contradiction
  | cons digit digits =>
      have isDigit := all digit List.mem_cons_self
      have other : digit ∉ ['"', 'r', 'b', 'c', '\''] := by
        intro member
        simp only [List.mem_cons, List.not_mem_nil, or_false] at member
        rcases member with rfl | rfl | rfl | rfl | rfl <;> exact absurd isDigit (by decide)
      have noPoint : behindDigits rest = none := by
        fun_cases behindDigits rest with
        | case1 => rfl
        | case2 fraction plain => exact absurd (ends.noFraction fraction rfl) plain
        | case3 | case4 => exact absurd (ends.noLetter _ rfl) (by decide)
        | case5 => rfl
      have noFloat : afterFloat (digit :: digits ++ rest) = none := by
        have behind := afterDigits_of_digits (List.forall_mem_cons.mp all).2 ends.noLetter
        rw [List.cons_append, afterFloat, afterFloatDigits_cons, if_pos isDigit, behind, noPoint]
        rfl
      have decimal : numberBase (digit :: digits ++ rest) = (10, digit :: digits ++ rest) := by
        have second (char : Char) (behind : List Char) (same : digits ++ rest = char :: behind) :
            isAsciiDigit char = true ∨ continuesIdentifier char = false := by
          cases digits with
          | nil => exact .inr (ends.noLetter char (by rw [← List.nil_append rest, same]; rfl))
          | cons next digits =>
              obtain ⟨rfl, -⟩ := List.cons.inj same
              exact .inl (all next (by simp))
        rw [List.cons_append, numberBase]
        all_goals
          intro behind same
          obtain ⟨-, same⟩ := List.cons.inj same
          rcases second _ behind same with isDigit | outside
          · exact absurd isDigit (by decide)
          · exact absurd outside (by decide)
      have word : atWordBreak rest = some rest := by
        cases rest with
        | nil => rfl
        | cons char rest => rw [atWordBreak, ends.noLetter char rfl]; rfl
      have noQuote := afterQuoted_of_other other (digits ++ rest)
      rw [← List.cons_append] at noQuote
      rw [after, noQuote, noFloat, afterInteger_eq, decimal,
        afterIntegerDigits_of_digits all ends.noLetter true (.inl something), Option.bind_some,
        afterSuffix_of_noLetter ends.noLetter, word]
      rfl

end Literal

end Scaffold.Source
