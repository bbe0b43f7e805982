import Scaffold.Proofs.Source.Spaced
import Scaffold.Source.Reading
import Scaffold.Source.Tree.Tokens

/-!
Contract: what is read in front of the name of a function.

Owns:
- the readers of words that are there or not;
- the head of every signature that is read from a text, from the words it begins with.

Does not own: the name, and what stands behind it.
-/

namespace Scaffold.Source

open Scaffold.Text

/-- What stands in front of a name where nothing but `async` is declared of it. -/
def FunctionHead.plain (isAsync : Bool) : FunctionHead :=
  ⟨false, isAsync, false, none⟩

/-! ### Words that are scanned -/

namespace Scan

variable {pending : List Delimiter} {text : List Char} {row : List Token} {fuel : Nat}

/-- A word in front of a blank is the first token that is found. -/
theorem exists_of_tokensFrom_word
    (gap : List Char)
    (name : String)
    (word : isWord name = true)
    (blank : ∀ char ∈ gap, isGap char = true)
    (enough : (gap ++ (name.toList ++ ' ' :: text)).length < fuel)
    (scanned : tokensFrom fuel pending (gap ++ (name.toList ++ ' ' :: text)) = some row) :
    ∃ fuel rest, row = .word name :: rest ∧ (' ' :: text).length < fuel
      ∧ tokensFrom fuel pending (' ' :: text) = some rest := by
  have stops : Stops (' ' :: text) := by
    rintro _ ⟨⟩
    decide
  have leads := leads_word (ends_of_stops stops) word
  obtain ⟨first, tail, spelled, -⟩ :=
    exists_start_of_isWord (ends_of_stops stops) word
  have begins : 1 ≤ name.toList.length := by
    rw [spelled, List.length_cons]
    omega
  cases fuel with
  | zero => contradiction
  | succ fuel =>
      rw [List.length_append, List.length_append] at enough
      rw [leads.tokensFrom_append blank (by omega)] at scanned
      obtain ⟨rest, found, rfl⟩ := Option.map_eq_some_iff.mp scanned
      exact ⟨fuel, rest, rfl, by omega, found⟩

end Scan

/-! ### Words that are read -/

namespace Parser

variable {α β : Type}

theorem bind_eq_some
    {part : Parser α}
    {next : α → Parser β}
    {tokens : List Token}
    {result : β × List Token}
    (reads : (part >>= next) tokens = some result) :
    ∃ value rest, part tokens = some (value, rest) ∧ next value rest = some result := by
  obtain ⟨⟨value, rest⟩, first, then_⟩ := Option.bind_eq_some_iff.mp reads
  exact ⟨value, rest, first, then_⟩

theorem bind_of_eq_some
    {part : Parser α}
    {value : α}
    {tokens rest : List Token}
    (reads : part tokens = some (value, rest))
    (next : α → Parser β) :
    (part >>= next) tokens = next value rest := by
  show (part tokens).bind _ = _
  rw [reads, Option.bind_some]

theorem peek_eq (test : Test) (tokens : List Token) :
    peek test tokens = some (test tokens, tokens) := rfl

theorem optionalWord_of_not_atWord
    {text : String}
    {tokens : List Token}
    (other : atWord text tokens = false) :
    optionalWord text tokens = some (false, tokens) := by
  have ahead : peek (atWord text) tokens = some (false, tokens) := by rw [peek_eq, other]
  exact bind_of_eq_some ahead _

theorem word_self (text : String) (rest : List Token) :
    word text (.word text :: rest) = some ((), rest) :=
  if_pos rfl

theorem optionalWord_self (text : String) (rest : List Token) :
    optionalWord text (.word text :: rest) = some (true, rest) := by
  have ahead : peek (atWord text) (.word text :: rest) = some (true, .word text :: rest) := by
    rw [peek_eq, atWord, beq_self_eq_true]
  rw [optionalWord, bind_of_eq_some ahead]
  exact bind_of_eq_some (word_self text rest) _

/-- A word that is there or not is found to be. -/
theorem optionalWord_wordIf
    {text : String}
    {rest : List Token}
    (other : atWord text rest = false)
    (condition : Bool) :
    optionalWord text (Spelling.wordIf condition text ++ rest) = some (condition, rest) := by
  cases condition with
  | false => exact optionalWord_of_not_atWord other
  | true => exact optionalWord_self text rest

theorem repeatWhile_of_not
    {test : Test}
    {tokens : List Token}
    (other : test tokens = false)
    (element : Parser α) :
    repeatWhile test element tokens = some ([], tokens) := by
  have ahead : peek test tokens = some (false, tokens) := by rw [peek_eq, other]
  show whileFrom test element (tokens.length + 1) tokens = some ([], tokens)
  exact bind_of_eq_some ahead _

end Parser

namespace Grammar

open Source.Parser

theorem outerAttributes_of_word (grammar : Grammar) (text : String) (rest : List Token) :
    outerAttributes grammar (.word text :: rest) = some (.nil, .word text :: rest) :=
  bind_of_eq_some (repeatWhile_of_not rfl (outerAttribute grammar)) _

theorem convention_of_word
    {text : String}
    (other : text ≠ "extern")
    (rest : List Token) :
    convention (.word text :: rest) = some (none, .word text :: rest) := by
  have notAhead : atWord "extern" (.word text :: rest) = false := beq_false_of_ne other
  exact bind_of_eq_some (optionalWord_of_not_atWord notAhead) _

/-- The head that is read in front of the name is the one that is spelled there. -/
theorem exists_of_signature
    {grammar : Grammar}
    {isAsync : Bool}
    {rest after : List Token}
    {read : Node .signature}
    (reads : signature grammar ((FunctionHead.plain isAsync).tokens ++ rest) = some (read, after)) :
    ∃ name generics parameters trailing output,
      read = .functionSignature (.plain isAsync) name generics parameters trailing output := by
  have start : (FunctionHead.plain isAsync).tokens ++ rest
      = Spelling.wordIf isAsync "async" ++ .word "fn" :: rest := by
    cases isAsync <;> rfl
  have notConst : atWord "const" (Spelling.wordIf isAsync "async" ++ .word "fn" :: rest) = false := by
    cases isAsync <;> rfl
  obtain ⟨⟨found, safe⟩, between, reads, done⟩ := bind_eq_some reads
  cases done
  rw [start, signatureWith, bind_of_eq_some (optionalWord_of_not_atWord notConst),
    bind_of_eq_some (optionalWord_wordIf rfl isAsync),
    bind_of_eq_some (optionalWord_of_not_atWord rfl),
    if_neg (by decide)] at reads
  obtain ⟨notSafe, _, isFalse, reads⟩ := bind_eq_some reads
  cases isFalse
  obtain ⟨linkage, _, noConvention, reads⟩ := bind_eq_some reads
  cases (convention_of_word (by decide) rest).symm.trans noConvention
  obtain ⟨⟨⟩, _, isWord, reads⟩ := bind_eq_some reads
  obtain ⟨name, _, -, reads⟩ := bind_eq_some reads
  obtain ⟨lead, _, -, reads⟩ := bind_eq_some reads
  obtain ⟨parameters, _, -, reads⟩ := bind_eq_some reads
  obtain ⟨output, _, -, reads⟩ := bind_eq_some reads
  obtain ⟨conditions, _, -, reads⟩ := bind_eq_some reads
  cases reads
  exact ⟨_, _, _, _, _, rfl⟩

end Grammar

/-! ### Heads -/

/-- Whatever is read from a text that begins with such words has the head that they spell. -/
theorem exists_of_readMethodText
    {isAsync : Bool}
    {text : String}
    {read : Node .signature}
    {behind : List Char}
    (begins : text.toList
      = (if isAsync then "async " else "").toList ++ ("fn ".toList ++ behind))
    (reads : readMethodText text = some read) :
    ∃ name generics parameters trailing output,
      read = .functionSignature (FunctionHead.plain isAsync) name generics parameters trailing output := by
  obtain ⟨row, scanned, reads⟩ := Option.bind_eq_some_iff.mp reads
  obtain ⟨rest, rfl⟩ : ∃ rest, row = (FunctionHead.plain isAsync).tokens ++ rest := by
    rw [Scan.tokens?, begins] at scanned
    have blank : ∀ char ∈ [' '], Scan.isGap char = true := forall_mem_of_all (by decide)
    cases isAsync with
    | false =>
        obtain ⟨_, rest, rfl, -⟩ := Scan.exists_of_tokensFrom_word [] "fn" (by decide)
          (by simp) (Nat.lt_succ_self _) scanned
        exact ⟨rest, rfl⟩
    | true =>
        obtain ⟨_, _, rfl, enough, scanned⟩ := Scan.exists_of_tokensFrom_word [] "async"
          (by decide) (by simp) (Nat.lt_succ_self _) scanned
        obtain ⟨_, rest, rfl, -⟩ := Scan.exists_of_tokensFrom_word [' '] "fn"
          (by decide) blank enough scanned
        exact ⟨rest, rfl⟩
  rw [readAll] at reads
  split at reads
  case h_2 => cases reads
  case h_1 value parsed =>
  cases reads
  have atWord (grammar : Grammar) : Grammar.outerAttributes grammar
      ((FunctionHead.plain isAsync).tokens ++ rest)
        = some (.nil, (FunctionHead.plain isAsync).tokens ++ rest) := by
    cases isAsync <;> exact Grammar.outerAttributes_of_word grammar _ _
  rw [Parser.bind_of_eq_some (atWord _)] at parsed
  obtain ⟨item, after, member, parsed⟩ := Parser.bind_eq_some parsed
  obtain ⟨found, between, isSignature, member⟩ := Parser.bind_eq_some member
  obtain ⟨name, generics, parameters, trailing, output, rfl⟩ :=
    Grammar.exists_of_signature isSignature
  refine ⟨name, generics, parameters, trailing, output, ?_⟩
  obtain ⟨opens, _, -, member⟩ := Parser.bind_eq_some member
  cases opens with
  | true =>
      obtain ⟨body, _, -, member⟩ := Parser.bind_eq_some member
      cases member
      cases parsed
      rfl
  | false =>
      obtain ⟨⟨⟩, _, -, member⟩ := Parser.bind_eq_some member
      cases member
      cases parsed
      rfl

end Scaffold.Source
