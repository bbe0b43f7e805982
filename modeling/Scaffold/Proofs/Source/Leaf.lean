import Mathlib.Data.List.TakeWhile
import Scaffold.Proofs.Source.Literal

/-!
Contract: the first token of a text that begins with a word, a mark or a literal.

Owns:
- what a text begins with that opens no comment and no delimiter;
- words, literals, marks and quotes with text behind them.

Does not own: blanks in front of a token, and delimiters.
-/

namespace Scaffold.Source.Scan

open Scaffold.Text

variable {rest : List Char}

/-- A text begins with a token that is no delimiter, and `rest` follows it. -/
structure Leads (token : Token) (text rest : List Char) : Prop where
  leaf : leaf? text = some (token, rest)
  noDoc : docComment? text = none
  noOpening : opened? text = none
  noComment : startsPlainLine text = false ∧ startsPlainBlock text = false
  apart : ∃ char behind, text = char :: behind ∧ isGap char = false ∧ closedBy? char = none

/-- A text begins with no comment: no slash in front of a slash or a star. -/
def NoComment (text : List Char) : Prop :=
  ∀ behind, text ≠ '/' :: '/' :: behind ∧ text ≠ '/' :: '*' :: behind

theorem noComment_of_ne {first : Char} {text : List Char} (other : first ≠ '/') :
    NoComment (first :: text) := by
  intro behind
  constructor <;> rintro ⟨⟩ <;> exact other rfl

theorem NoComment.plain {text : List Char} (none : NoComment text) :
    startsPlainLine text = false ∧ startsPlainBlock text = false := by
  constructor
  · fun_cases startsPlainLine text with
    | case1 behind | case4 behind => exact absurd rfl (none _).1
    | _ => rfl
  · fun_cases startsPlainBlock text with
    | case1 behind | case2 behind | case5 behind => exact absurd rfl (none _).2
    | _ => rfl

theorem NoComment.noDoc {text : List Char} (none : NoComment text) :
    docComment? text = .none := by
  fun_cases docComment? text
  all_goals first | rfl | exact absurd rfl (none _).1 | exact absurd rfl (none _).2

/-! ### Words -/

/-- Does the text spell one word, with its raw mark if it has one? -/
def isWord (text : String) : Bool :=
  anyWord? text.toList == some (text, [])

/-- A text does not begin with what would make a literal of the letters in front of it. -/
def Bare (text : List Char) : Prop :=
  ∀ char ∈ text.head?, char ∉ ['"', '#', '\'']

/-- A word ends in front of the text: neither a letter of it follows nor what makes a literal of it. -/
structure Ends (text : List Char) : Prop where
  noLetter : ∀ char ∈ text.head?, continuesIdentifier char = false
  bare : Bare text

theorem ends_of_stops (stops : Stops rest) : Ends rest := by
  constructor
  · intro char first
    rw [Bool.eq_false_iff]
    intro continues
    have apart := not_clings_of_stop (stops char first)
    rw [Literal.clings_of_continues continues] at apart
    contradiction
  · intro char first member
    have apart := not_clings_of_stop (stops char first)
    simp only [List.mem_cons, List.not_mem_nil, or_false] at member
    rcases member with rfl | rfl | rfl <;> exact absurd apart (by decide)

theorem Ends.ne
    (ends : Ends rest)
    {char : Char}
    (clinging : char ∈ ['r', '#', '"', '\''])
    (behind : List Char) :
    rest ≠ char :: behind := by
  rintro rfl
  have noLetter := ends.noLetter char rfl
  have bare := ends.bare char rfl
  simp only [List.mem_cons, List.not_mem_nil, or_false] at clinging bare
  rcases clinging with rfl | rfl | rfl | rfl
  · exact absurd noLetter (by decide)
  all_goals simp at bare

theorem Ends.dropWhile_append (ends : Ends rest) (text : List Char) :
    (text ++ rest).dropWhile continuesIdentifier = text.dropWhile continuesIdentifier ++ rest := by
  have kept : rest.dropWhile continuesIdentifier = rest := by
    cases rest with
    | nil => rfl
    | cons char after =>
        rw [List.dropWhile_cons_of_neg]
        rw [ends.noLetter char rfl]
        exact Bool.false_ne_true
  rw [List.dropWhile_append, kept]
  split
  · next empty => rw [List.isEmpty_iff.mp empty, List.nil_append]
  · rfl

theorem Ends.takeWhile_append (ends : Ends rest) (text : List Char) :
    (text ++ rest).takeWhile continuesIdentifier = text.takeWhile continuesIdentifier := by
  have whole := List.takeWhile_append_dropWhile (p := continuesIdentifier) (l := text ++ rest)
  have part := List.takeWhile_append_dropWhile (p := continuesIdentifier) (l := text)
  rw [ends.dropWhile_append, ← List.append_assoc] at whole
  exact List.append_cancel_right ((List.append_cancel_right whole).trans part.symm)

theorem bare_of_continues
    {char : Char}
    {text : List Char}
    (continues : continuesIdentifier char = true) :
    Bare (char :: text) := by
  rintro first ⟨⟩ member
  simp only [List.mem_cons, List.not_mem_nil, or_false] at member
  rcases member with rfl | rfl | rfl <;> exact absurd continues (by decide)

theorem rawFence_of_bare {text : List Char} (bare : Bare text) : Literal.rawFence text = none := by
  fun_cases Literal.rawFence text with
  | case1 behind => exact absurd (by decide) (bare '"' rfl)
  | case2 behind => exact absurd (by decide) (bare '#' rfl)
  | case3 => rfl

theorem afterRaw_of_bare
    {sort : Literal.Quoted}
    {text : List Char}
    (bare : Bare text) :
    Literal.afterRaw sort text = none := by
  rw [Literal.afterRaw, rawFence_of_bare bare]
  rfl

/-- A text makes no literal of the letter in front of it. -/
structure OpensNoLiteral (text : List Char) : Prop where
  noQuote : ∀ behind, text ≠ '"' :: behind ∧ text ≠ '\'' :: behind
  bareBehind : ∀ second behind, second ∈ ['r', '#'] → text = second :: behind → Bare behind

theorem OpensNoLiteral.afterRaw
    {sort : Literal.Quoted}
    {text : List Char}
    (opensNone : OpensNoLiteral text) :
    Literal.afterRaw sort text = none := by
  cases text with
  | nil => rfl
  | cons second behind =>
      by_cases hash : second = '#'
      · rw [Literal.afterRaw, hash, Literal.rawFence,
          rawFence_of_bare (opensNone.bareBehind second behind (by simp [hash]) rfl)]
        rfl
      · apply afterRaw_of_bare
        rintro first ⟨⟩ member
        simp only [List.mem_cons, List.not_mem_nil, or_false] at member
        rcases member with quote | isHash | quote
        · exact (opensNone.noQuote behind).1 (by rw [quote])
        · exact hash isHash
        · exact (opensNone.noQuote behind).2 (by rw [quote])

theorem OpensNoLiteral.afterQuoted
    {first : Char}
    {text : List Char}
    (opensNone : OpensNoLiteral text)
    (starts : Literal.startsWord first = true) :
    Literal.afterQuoted (first :: text) = none := by
  unfold Literal.afterQuoted
  split
  · next same =>
      cases same
      exact absurd starts (by decide)
  · next same =>
      cases same
      exact opensNone.afterRaw
  · next same =>
      cases same
      exact absurd rfl (opensNone.noQuote _).1
  · next same =>
      cases same
      exact afterRaw_of_bare (opensNone.bareBehind 'r' _ (by decide) rfl)
  · next same =>
      cases same
      exact absurd rfl (opensNone.noQuote _).1
  · next same =>
      cases same
      exact afterRaw_of_bare (opensNone.bareBehind 'r' _ (by decide) rfl)
  · next same =>
      cases same
      exact absurd rfl (opensNone.noQuote _).2
  · next same =>
      cases same
      exact absurd starts (by decide)
  · rfl

theorem OpensNoLiteral.word?_eq
    {text : List Char}
    (opensNone : OpensNoLiteral text)
    (first : Char) :
    word? (first :: text) = anyWord? (first :: text) := by
  obtain ⟨noQuote, bareBehind⟩ := opensNone
  rw [word?, if_neg]
  cases text with
  | nil => simp [literalOpenings, List.isPrefixOf]
  | cons second behind =>
      have bare := bareBehind second behind
      have plain := noQuote behind
      cases behind with
      | nil =>
          simp [literalOpenings, List.isPrefixOf] at plain ⊢
          grind
      | cons third behind =>
          simp [literalOpenings, List.isPrefixOf, Bare] at plain bare ⊢
          grind

theorem opensNoLiteral_of_continues
    (ends : Ends rest)
    {text : List Char}
    (continues : ∀ char ∈ text, continuesIdentifier char = true) :
    OpensNoLiteral (text ++ rest) ∧ Bare (text ++ rest) := by
  have bare (text : List Char) (continues : ∀ char ∈ text, continuesIdentifier char = true) :
      Bare (text ++ rest) := by
    cases text with
    | nil => exact ends.bare
    | cons char text => exact bare_of_continues (continues char List.mem_cons_self)
  refine ⟨⟨fun behind => ⟨?_, ?_⟩, ?_⟩, bare text continues⟩
  · intro same
    exact absurd (by decide) (bare text continues '"' (by rw [same]; rfl))
  · intro same
    exact absurd (by decide) (bare text continues '\'' (by rw [same]; rfl))
  · intro second behind marks same
    cases text with
    | nil =>
        have clinging : second ∈ ['r', '#', '"', '\''] := List.mem_append_left _ marks
        exact absurd same (ends.ne clinging behind)
    | cons char text =>
        rw [List.cons_append] at same
        obtain ⟨-, rfl⟩ := List.cons.inj same
        exact bare text fun char member => continues char (List.mem_cons_of_mem _ member)

theorem after_eq_none
    {first : Char}
    {text : List Char}
    (quoted : Literal.afterQuoted (first :: text) = none)
    (noDigit : isAsciiDigit first = false) :
    Literal.after (first :: text) = none := by
  have noFloat : Literal.afterFloat (first :: text) = none := by
    by_contra some
    obtain ⟨found, float⟩ := Option.ne_none_iff_exists'.mp some
    obtain ⟨digit, digits, same, isDigit⟩ := Literal.exists_digit_of_afterFloat float
    cases same
    rw [noDigit] at isDigit
    contradiction
  have noInteger : Literal.afterInteger (first :: text) = none := by
    by_contra some
    obtain ⟨found, integer⟩ := Option.ne_none_iff_exists'.mp some
    obtain ⟨digit, digits, same, isDigit⟩ := Literal.exists_digit_of_afterInteger integer
    cases same
    rw [noDigit] at isDigit
    contradiction
  rw [Literal.after, quoted, noFloat, noInteger]
  rfl

theorem not_stop_of_startsWord {char : Char} (starts : Literal.startsWord char = true) :
    isStop char = false := by
  rw [Bool.eq_false_iff]
  intro stop
  have apart := not_clings_of_stop stop
  rw [Literal.clings_of_startsWord starts] at apart
  contradiction

theorem not_digit_of_startsWord {char : Char} (starts : Literal.startsWord char = true) :
    isAsciiDigit char = false := by
  rw [Bool.eq_false_iff]
  intro digit
  simp only [isAsciiDigit, Bool.and_eq_true, decide_eq_true_eq] at digit
  have ascii : char.toNat < 0x80 := by omega
  rw [Literal.startsWord, startsIdentifier, if_pos ascii, Bool.or_eq_true, beq_iff_eq] at starts
  rcases starts with rfl | letter
  · exact absurd digit (by decide)
  · simp only [isAsciiLetter, Bool.or_eq_true, Bool.and_eq_true, decide_eq_true_eq] at letter
    omega

/-- The characters that are marks. -/
def markChars : List Char :=
  "~!@#$%^&*-=+|;:,<.>/?'".toList

theorem NoComment.markChar?_eq
    {first : Char}
    {text : List Char}
    (plain : NoComment (first :: text)) :
    markChar? (first :: text) = if markChars.contains first then some (first, text) else none := by
  rw [markChar?]
  · rfl
  · rintro behind rfl rfl
    exact (plain behind).1 rfl
  · rintro behind rfl rfl
    exact (plain behind).2 rfl

theorem markChar?_of_other
    {first : Char}
    (other : first ∉ markChars)
    (text : List Char) :
    markChar? (first :: text) = none := by
  have noSlash : first ≠ '/' := by
    rintro rfl
    exact other (by decide)
  rw [(noComment_of_ne noSlash).markChar?_eq, if_neg]
  rwa [List.contains_iff_mem]

theorem not_mark_of_startsWord {char : Char} (starts : Literal.startsWord char = true) :
    char ∉ markChars := by
  have checked : ∀ mark ∈ markChars, Literal.startsWord mark = false :=
    forall_mem_of_all (by decide)
  intro mark
  rw [checked char mark] at starts
  contradiction

theorem mark?_of_other
    {first : Char}
    (other : first ∉ markChars)
    (text : List Char) :
    mark? (first :: text) = none := by
  rw [mark?, markChar?_of_other other]
  rfl

theorem plainWord?_append
    (ends : Ends rest)
    {text : List Char}
    {name : String}
    (read : plainWord? text = some (name, [])) :
    plainWord? (text ++ rest) = some (name, rest) := by
  cases text with
  | nil => contradiction
  | cons first behind =>
      rw [plainWord?] at read
      obtain ⟨starts, same⟩ := Option.ite_none_right_eq_some.mp read
      obtain ⟨sameName, nothing⟩ := Prod.mk.inj (Option.some.inj same)
      rw [List.cons_append, plainWord?, if_pos starts,
        ends.takeWhile_append, ends.dropWhile_append, sameName, nothing, List.nil_append]

/-- The two shapes of a word: with a raw mark and without one. -/
theorem anyWord?_eq_some
    {text after : List Char}
    {name : String}
    (read : anyWord? text = some (name, after)) :
    (∃ behind plain, text = 'r' :: '#' :: behind ∧ plainWord? behind = some (plain, after)
        ∧ unrawableWords.contains plain = false ∧ name = "r#" ++ plain)
      ∨ (∀ behind, text ≠ 'r' :: '#' :: behind) ∧ plainWord? text = some (name, after) := by
  unfold anyWord? at read
  split at read
  · next behind =>
      left
      cases plainRead : plainWord? behind with
      | none => simp [plainRead] at read
      | some found =>
          obtain ⟨plain, behindPlain⟩ := found
          simp only [plainRead] at read
          obtain ⟨allowed, same⟩ := Option.ite_none_left_eq_some.mp read
          obtain ⟨rfl, rfl⟩ := Prod.mk.inj (Option.some.inj same)
          exact ⟨behind, plain, rfl, plainRead, by simpa using allowed, rfl⟩
  · next noRaw => exact .inr ⟨fun behind same => noRaw behind same, read⟩

theorem anyWord?_append
    (ends : Ends rest)
    {text : List Char}
    {name : String}
    (read : anyWord? text = some (name, [])) :
    anyWord? (text ++ rest) = some (name, rest) := by
  rcases anyWord?_eq_some read with ⟨behind, plain, rfl, plainRead, allowed, rfl⟩ | ⟨noRaw, plainRead⟩
  · rw [List.cons_append, List.cons_append, anyWord?, plainWord?_append ends plainRead]
    simp only [allowed, Bool.false_eq_true, if_false]
  · rw [anyWord?, plainWord?_append ends plainRead]
    rintro behind same
    cases text with
    | nil => contradiction
    | cons first text =>
        cases text with
        | nil =>
            obtain ⟨-, same⟩ := List.cons.inj same
            exact ends.ne (by decide) _ same
        | cons second text =>
            cases same
            exact noRaw text rfl

theorem startsWord_of_plainWord
    {text behind : List Char}
    {name : String}
    (read : plainWord? text = some (name, behind)) :
    ∃ first tail, text = first :: tail ∧ Literal.startsWord first = true
      ∧ name = String.ofList (first :: tail.takeWhile continuesIdentifier)
      ∧ behind = tail.dropWhile continuesIdentifier := by
  cases text with
  | nil => contradiction
  | cons first tail =>
      rw [plainWord?] at read
      obtain ⟨starts, same⟩ := Option.ite_none_right_eq_some.mp read
      obtain ⟨rfl, rfl⟩ := Prod.mk.inj (Option.some.inj same)
      exact ⟨first, tail, rfl, starts, rfl, rfl⟩

theorem plainWord?_of_letters
    {first : Char}
    {more : List Char}
    (starts : Literal.startsWord first = true)
    (continues : ∀ char ∈ more, continuesIdentifier char = true) :
    plainWord? (first :: more) = some (String.ofList (first :: more), []) := by
  rw [plainWord?, if_pos starts, List.takeWhile_eq_self_iff.mpr continues,
    List.dropWhile_eq_nil_iff.mpr continues]

theorem isWord_of_letters
    {first : Char}
    {more : List Char}
    (starts : Literal.startsWord first = true)
    (continues : ∀ char ∈ more, continuesIdentifier char = true) :
    isWord (String.ofList (first :: more)) = true := by
  rw [isWord, String.toList_ofList, beq_iff_eq, anyWord?, plainWord?_of_letters starts continues]
  rintro behind same
  obtain ⟨-, rfl⟩ := List.cons.inj same
  exact absurd (continues '#' List.mem_cons_self) (by decide)

/-- What is found as a word is one. -/
theorem isWord_of_anyWord?
    {text after : List Char}
    {name : String}
    (read : anyWord? text = some (name, after)) :
    isWord name = true := by
  rcases anyWord?_eq_some read with ⟨behind, plain, -, plainRead, allowed, rfl⟩ | ⟨-, plainRead⟩
  · obtain ⟨first, tail, -, starts, rfl, -⟩ := startsWord_of_plainWord plainRead
    have again := plainWord?_of_letters starts
      fun char (member : char ∈ tail.takeWhile continuesIdentifier) => List.mem_takeWhile_imp member
    rw [isWord, String.toList_append, String.toList_ofList, String.toList_ofList, beq_iff_eq]
    show anyWord? ('r' :: '#' :: (first :: tail.takeWhile continuesIdentifier)) = _
    rw [anyWord?, again]
    simp only [allowed, Bool.false_eq_true, if_false]
  · obtain ⟨first, tail, -, starts, rfl, -⟩ := startsWord_of_plainWord plainRead
    exact isWord_of_letters starts fun char member => List.mem_takeWhile_imp member

theorem bare_of_startsWord
    {char : Char}
    {text : List Char}
    (starts : Literal.startsWord char = true) :
    Bare (char :: text) := by
  rintro first ⟨⟩ member
  simp only [List.mem_cons, List.not_mem_nil, or_false] at member
  rcases member with rfl | rfl | rfl <;> exact absurd starts (by decide)

/-- A word in front of its end begins like a word, and no literal begins with it. -/
theorem exists_start_of_isWord
    (ends : Ends rest)
    {name : String}
    (word : isWord name = true) :
    ∃ first behind, name.toList = first :: behind ∧ Literal.startsWord first = true
      ∧ OpensNoLiteral (behind ++ rest) := by
  rcases anyWord?_eq_some (beq_iff_eq.mp word) with
    ⟨behind, plain, spelled, plainRead, -⟩ | ⟨-, plainRead⟩
  · refine ⟨'r', '#' :: behind, spelled, by decide, ⟨?_, ?_⟩⟩
    · intro after
      constructor <;> rintro ⟨⟩
    · rintro second after - ⟨⟩
      obtain ⟨first, tail, rfl, starts, -⟩ := startsWord_of_plainWord plainRead
      exact bare_of_startsWord starts
  · obtain ⟨first, tail, spelled, starts, -, nothing⟩ := startsWord_of_plainWord plainRead
    refine ⟨first, tail, spelled, starts, (opensNoLiteral_of_continues ends ?_).1⟩
    exact List.dropWhile_eq_nil_iff.mp nothing.symm

theorem not_stop_apart
    {char : Char}
    (inside : isStop char = false) :
    isGap char = false ∧ closedBy? char = none ∧ ∀ text, opened? (char :: text) = none := by
  rw [isStop, Bool.or_eq_false_iff] at inside
  obtain ⟨noGap, noMark⟩ := inside
  have noMark : char ∉ stopMarks := by
    intro member
    rw [List.contains_iff_mem.mpr member] at noMark
    contradiction
  refine ⟨noGap, ?_, ?_⟩
  · fun_cases closedBy? char with
    | case1 same | case2 _ same => exact absurd (by rw [same]; decide) noMark
    | case3 _ _ code =>
        have closes : char = '\x7d' := Char.toNat_inj.mp code
        exact absurd (by rw [closes]; decide) noMark
    | case4 => rfl
  · intro text
    unfold opened?
    split
    · next same =>
        cases same
        exact absurd (by decide) noMark
    · next same =>
        cases same
        exact absurd (by decide) noMark
    · next same =>
        cases same
        exact absurd (by decide) noMark
    · rfl

theorem leads_of_word
    {first : Char}
    {behind : List Char}
    {name : String}
    (starts : Literal.startsWord first = true)
    (opensNone : OpensNoLiteral behind)
    (read : anyWord? (first :: behind) = some (name, rest)) :
    Leads (.word name) (first :: behind) rest := by
  have noMark := not_mark_of_startsWord starts
  have noSlash : first ≠ '/' := by
    rintro rfl
    exact noMark (by decide)
  obtain ⟨noGap, noClosing, noOpening⟩ := not_stop_apart (not_stop_of_startsWord starts)
  constructor
  · have noLiteral : Literal.after (first :: behind) = none :=
      after_eq_none (opensNone.afterQuoted starts) (not_digit_of_startsWord starts)
    rw [leaf?, noLiteral, mark?_of_other noMark, opensNone.word?_eq, read]
  · exact (noComment_of_ne noSlash).noDoc
  · exact noOpening _
  · exact (noComment_of_ne noSlash).plain
  · exact ⟨first, _, rfl, noGap, noClosing⟩

theorem leads_word
    (ends : Ends rest)
    {name : String}
    (word : isWord name = true) :
    Leads (.word name) (name.toList ++ rest) rest := by
  obtain ⟨first, behind, spelled, starts, opensNone⟩ := exists_start_of_isWord ends word
  have read := anyWord?_append ends (beq_iff_eq.mp word)
  rw [spelled, List.cons_append] at read ⊢
  exact leads_of_word starts opensNone read

/-! ### Literals -/

/-- The characters that literals begin with, digits apart. -/
def literalStarts : List Char :=
  ['"', 'r', 'b', 'c', '\'']

theorem exists_start_of_literal
    {text behind : List Char}
    (literal : Literal.after text = some behind) :
    ∃ first tail, text = first :: tail ∧ (first ∈ literalStarts ∨ isAsciiDigit first = true) := by
  rw [Literal.after] at literal
  cases text with
  | nil => contradiction
  | cons first tail =>
      refine ⟨first, tail, rfl, ?_⟩
      by_cases starts : first ∈ literalStarts
      · exact .inl starts
      · rw [Literal.afterQuoted_of_other starts] at literal
        right
        cases float : Literal.afterFloat (first :: tail) with
        | some found =>
            obtain ⟨digit, digits, same, isDigit⟩ := Literal.exists_digit_of_afterFloat float
            cases same
            exact isDigit
        | none =>
            rw [float] at literal
            obtain ⟨digit, digits, same, isDigit⟩ := Literal.exists_digit_of_afterInteger literal
            cases same
            exact isDigit

theorem not_stop_of_literalStart
    {first : Char}
    (starts : first ∈ literalStarts ∨ isAsciiDigit first = true) :
    isStop first = false := by
  rcases starts with starts | digit
  · have checked : ∀ char ∈ literalStarts, isStop char = false :=
      forall_mem_of_all (by decide)
    exact checked first starts
  · rw [Bool.eq_false_iff]
    intro stop
    have apart := not_clings_of_stop stop
    rw [Literal.clings_of_isDigitOrUnderscore (by rw [digit, Bool.true_or])] at apart
    contradiction

theorem not_slash_of_literalStart
    {first : Char}
    (starts : first ∈ literalStarts ∨ isAsciiDigit first = true) :
    first ≠ '/' := by
  rintro rfl
  rcases starts with starts | digit <;> contradiction

theorem leads_of_read
    {text : String}
    (read : Literal.after (text.toList ++ rest) = some rest) :
    Leads (.literal text) (text.toList ++ rest) rest := by
  obtain ⟨first, tail, begins, starts⟩ := exists_start_of_literal read
  have noSlash := not_slash_of_literalStart starts
  obtain ⟨noGap, noClosing, noOpening⟩ := not_stop_apart (not_stop_of_literalStart starts)
  have kept : (text.toList ++ rest).take ((text.toList ++ rest).length - rest.length)
      = text.toList := by
    rw [List.length_append, Nat.add_sub_cancel, List.take_left]
  constructor
  · rw [leaf?, read]
    simp only [kept, String.ofList_toList]
  · rw [begins]
    exact (noComment_of_ne noSlash).noDoc
  · rw [begins]
    exact noOpening _
  · rw [begins]
    exact (noComment_of_ne noSlash).plain
  · exact ⟨first, tail, begins, noGap, noClosing⟩

theorem leads_literal
    (stops : Stops rest)
    {text : String}
    (literal : Literal.after text.toList = some []) :
    Leads (.literal text) (text.toList ++ rest) rest := by
  exact leads_of_read (Literal.after_append stops literal)

/-! ### Marks -/

theorem mark_apart
    {char : Char}
    (mark : char ∈ markChars) :
    isGap char = false ∧ closedBy? char = none ∧ isAsciiDigit char = false := by
  have checked : ∀ char ∈ markChars,
      isGap char = false ∧ closedBy? char = none ∧ isAsciiDigit char = false :=
    forall_mem_of_all (by decide)
  exact checked char mark

theorem opened?_of_mark
    {char : Char}
    (mark : char ∈ markChars)
    (text : List Char) :
    opened? (char :: text) = none := by
  unfold opened?
  split
  · next same =>
      cases same
      exact absurd mark (by decide)
  · next same =>
      cases same
      exact absurd mark (by decide)
  · next same =>
      cases same
      exact absurd mark (by decide)
  · rfl

theorem leads_mark
    {char : Char}
    (mark : char ∈ markChars)
    (noQuote : char ≠ '\'')
    (plain : NoComment (char :: rest)) :
    Leads (.mark char (if (markChar? rest).isSome then .joint else .alone)) (char :: rest) rest := by
  obtain ⟨noGap, noClosing, noDigit⟩ := mark_apart mark
  have other : char ∉ literalStarts := by
    have checked : ∀ char ∈ markChars, char ≠ '\'' → char ∉ literalStarts :=
      forall_mem_of_all (by decide)
    exact checked char mark noQuote
  have noLiteral := after_eq_none (Literal.afterQuoted_of_other other rest) noDigit
  refine ⟨?_, plain.noDoc, opened?_of_mark mark rest, plain.plain,
    ⟨char, rest, rfl, noGap, noClosing⟩⟩
  rw [leaf?, noLiteral, mark?, plain.markChar?_eq, if_pos (List.contains_iff_mem.mpr mark)]
  simp only [Option.bind_eq_bind, Option.bind_some, if_neg noQuote]

/-- A quote in front of a word begins no character: no second quote follows the first letter. -/
theorem OpensNoLiteral.afterCharacter
    {first : Char}
    {text : List Char}
    (opensNone : OpensNoLiteral text)
    (starts : Literal.startsWord first = true) :
    Literal.afterQuoted ('\'' :: first :: text) = none := by
  have noBackslash : first ≠ '\\' := by
    rintro rfl
    exact absurd starts (by decide)
  have inside : Literal.afterInside .text (first :: text) = some text := by
    rw [Literal.afterInside, if_pos]
    · simp [noBackslash, Literal.Quoted.allowsChar]
    all_goals
      intros
      contradiction
  rw [Literal.afterQuoted, Literal.afterCharacter_eq, inside, Option.bind_some]
  unfold Literal.afterClosing
  split
  · next same => exact absurd rfl (opensNone.noQuote _).2
  · rfl

theorem leads_quote
    (stops : Stops rest)
    {name : String}
    (word : isWord name = true) :
    Leads (.mark '\'' .joint) ('\'' :: (name.toList ++ rest)) (name.toList ++ rest) := by
  have ends := ends_of_stops stops
  obtain ⟨first, behind, spelled, starts, opensNone⟩ := exists_start_of_isWord ends word
  have read := anyWord?_append ends (beq_iff_eq.mp word)
  have mark : '\'' ∈ markChars := by decide
  obtain ⟨noGap, noClosing, noDigit⟩ := mark_apart mark
  have plain : NoComment ('\'' :: (name.toList ++ rest)) := noComment_of_ne (by decide)
  have noCharacter : Literal.afterQuoted ('\'' :: (name.toList ++ rest)) = none := by
    rw [spelled, List.cons_append]
    exact opensNone.afterCharacter starts
  have lifetime : mark? ('\'' :: (name.toList ++ rest))
      = some (.mark '\'' .joint, name.toList ++ rest) := by
    rw [mark?, plain.markChar?_eq, if_pos (List.contains_iff_mem.mpr mark)]
    simp only [Option.bind_eq_bind, Option.bind_some, if_true, read]
    cases rest with
    | nil => rfl
    | cons char after =>
        split
        · next same => exact absurd same (Literal.ne_of_stops stops (by decide))
        · next same => exact absurd same (Literal.ne_of_stops stops (by decide))
        · rfl
  refine ⟨?_, plain.noDoc, opened?_of_mark mark _, plain.plain, ⟨_, _, rfl, noGap, noClosing⟩⟩
  rw [leaf?, after_eq_none noCharacter noDigit, lifetime]

end Scaffold.Source.Scan
