import Mathlib.Algebra.GroupWithZero.Nat
import Scaffold.Proofs.Interface.SignatureText

/-!
Contract: the text of the signature of a method against the signature that is declared.

Owns:
- what the text leaves out: words in front of `fn` and the variadic parameter;
- when the text reads back as the declared signature.
-/

namespace Scaffold

open Source

/-! ### What the text leaves out -/

namespace Source

theorem FunctionHead.eq_plain_of_append
    {head : FunctionHead}
    {front back : List Token}
    (same : (plain head.isAsync).tokens ++ front = head.tokens ++ back) :
    head = plain head.isAsync := by
  obtain ⟨isConst, isAsync, isUnchecked, convention⟩ := head
  cases isConst <;> cases isAsync <;> cases isUnchecked <;> rcases convention with _ | _ | _ <;>
    simp [tokens, plain, Spelling.wordIf, Spelling.word, Convention.tokens] at same ⊢

theorem FunctionHead.length_tokens (head : FunctionHead) :
    (plain head.isAsync).tokens.length ≤ head.tokens.length
      ∧ ((plain head.isAsync).tokens.length = head.tokens.length → head = plain head.isAsync) := by
  obtain ⟨isConst, isAsync, isUnchecked, convention⟩ := head
  cases isConst <;> cases isAsync <;> cases isUnchecked <;> rcases convention with _ | _ | _ <;>
    simp [tokens, plain, Spelling.wordIf, Spelling.word, Convention.tokens]

theorem Spelling.length_commaSeparated
    {rows : List (List Token)}
    (something : rows ≠ [])
    (trailing : Bool) :
    (commaSeparated rows trailing).length + 1
      = (rows.map fun row => row.length + 1).sum + trailing.toNat := by
  have ending : (marksIf trailing ",").length = trailing.toNat := by
    cases trailing <;> rfl
  induction rows with
  | nil => contradiction
  | cons row rows inductionHypothesis =>
      cases rows with
      | nil =>
          rw [commaSeparated_singleton, List.length_append, ending]
          simp
          omega
      | cons next rows =>
          have rest := inductionHypothesis (List.cons_ne_nil _ _)
          have comma : (Token.marks ",").length = 1 := rfl
          rw [commaSeparated_cons_cons, List.length_append, List.length_append, comma, List.map_cons,
            List.sum_cons]
          omega

theorem fixedParameters_eq (parameters : List (Node .parameter)) (trailing : Bool) :
    (fixedParameters parameters trailing).1
      = parameters.filter fun parameter => !Grammar.isVariadic parameter := by
  rw [fixedParameters]
  apply List.filter_congr
  intro parameter _
  cases parameter <;> rfl

/-- Three dots stand for a variadic parameter. -/
theorem length_of_isVariadic
    {parameter : Node .parameter}
    (variadic : Grammar.isVariadic parameter = true) :
    3 ≤ parameter.tokens.length := by
  cases parameter with
  | selfParameter => contradiction
  | typedParameter => contradiction
  | variadicParameter attributes pattern =>
      have spelled : ∃ front, (Node.variadicParameter attributes pattern).tokens
          = front ++ Token.marks "..." := ⟨_, rfl⟩
      obtain ⟨front, spelled⟩ := spelled
      have dots : (Token.marks "...").length = 3 := rfl
      rw [spelled, List.length_append, dots]
      omega

theorem sum_filter_le
    {α : Type}
    (isFixed : α → Bool)
    (size : α → Nat)
    (parameters : List α) :
    ((parameters.filter isFixed).map size).sum ≤ (parameters.map size).sum := by
  induction parameters with
  | nil => exact Nat.le_refl _
  | cons parameter rest inductionHypothesis =>
      rw [List.filter_cons, List.map_cons, List.sum_cons]
      split
      · rw [List.map_cons, List.sum_cons]
        omega
      · omega

theorem sum_of_isVariadic
    {parameters : List (Node .parameter)}
    (variadic : parameters.any Grammar.isVariadic = true) :
    ((parameters.filter fun parameter => !Grammar.isVariadic parameter).map
        fun parameter => parameter.tokens.length + 1).sum + 4
      ≤ (parameters.map fun parameter => parameter.tokens.length + 1).sum := by
  induction parameters with
  | nil => contradiction
  | cons parameter rest inductionHypothesis =>
      cases here : Grammar.isVariadic parameter with
      | true =>
          have length := length_of_isVariadic here
          have others := sum_filter_le (fun parameter => !Grammar.isVariadic parameter)
            (fun parameter => parameter.tokens.length + 1) rest
          rw [List.filter_cons_of_neg (by simp [here]), List.map_cons, List.sum_cons]
          omega
      | false =>
          rw [List.any_cons, here, Bool.false_or] at variadic
          have others := inductionHypothesis variadic
          rw [List.filter_cons_of_pos (by simp [here]), List.map_cons, List.map_cons, List.sum_cons,
            List.sum_cons]
          omega

/-- Variadic parameters are missing among the parameters that are spelled. -/
theorem length_fixedParameters
    {parameters : List (Node .parameter)}
    (trailing : Bool)
    (something : (fixedParameters parameters trailing).1 ≠ [])
    (variadic : parameters.any Grammar.isVariadic = true) :
    (Spelling.commaSeparated ((fixedParameters parameters trailing).1.map Node.tokens)
        (fixedParameters parameters trailing).2).length
      < (Spelling.commaSeparated (parameters.map Node.tokens) trailing).length := by
  have all : parameters ≠ [] := by
    rintro rfl
    contradiction
  have fixedRows : (fixedParameters parameters trailing).1.map Node.tokens ≠ [] := by
    simpa using something
  have allRows : parameters.map Node.tokens ≠ [] := by simpa using all
  have fixedLength :=
    Spelling.length_commaSeparated fixedRows (fixedParameters parameters trailing).2
  have allLength := Spelling.length_commaSeparated allRows trailing
  have missing := sum_of_isVariadic variadic
  have comma := Bool.toNat_le (fixedParameters parameters trailing).2
  rw [List.map_map, fixedParameters_eq] at fixedLength
  rw [List.map_map] at allLength
  simp only [Function.comp_def] at fixedLength allLength
  rw [fixedParameters_eq]
  omega

end Source

/-! ### Signatures that are read back -/

/-- Stated parameters are there if there is a receiver. -/
theorem fixedParameters_ne_nil
    {parameters : List (Node .parameter)}
    {trailing : Bool}
    (receiver : ∃ first ∈ parameters, isReceiver first = true) :
    (fixedParameters parameters trailing).1 ≠ [] := by
  obtain ⟨first, member, isFirst⟩ := receiver
  have fixed : Grammar.isVariadic first = false := by
    cases first with
    | selfParameter => rfl
    | typedParameter => contradiction
    | variadicParameter => contradiction
  rw [fixedParameters_eq]
  exact List.ne_nil_of_mem (List.mem_filter.mpr ⟨member, by simp [fixed]⟩)

theorem fixedParameters_of_not_isVariadic
    {parameters : List (Node .parameter)}
    {trailing : Bool}
    (something : parameters ≠ [])
    (fixed : parameters.any Grammar.isVariadic = false) :
    fixedParameters parameters trailing = (parameters, trailing) := by
  have all : parameters.filter (fun parameter => !Grammar.isVariadic parameter) = parameters := by
    rw [List.filter_eq_self]
    intro parameter member
    rw [Bool.not_eq_true', Bool.eq_false_iff]
    intro variadic
    exact absurd (List.any_eq_true.mpr ⟨parameter, member, variadic⟩) (by simp [fixed])
  have same := (fixedParameters_eq parameters trailing).trans all
  refine Prod.ext same ?_
  show (!(fixedParameters parameters trailing).1.isEmpty
    && (trailing || (fixedParameters parameters trailing).1.length < parameters.length)) = trailing
  rw [same]
  cases parameters with
  | nil => contradiction
  | cons first rest => simp

theorem exists_receiver_nameWildcards
    {head : FunctionHead}
    {name : String}
    {generics : Node .generics}
    {parameters : Node (.many .parameter)}
    {trailing : Bool}
    {output : Node (.maybe .type)}
    (receiver : hasReceiver
      (.functionSignature head name generics parameters trailing output) = true) :
    ∃ first ∈ nameWildcards 0 parameters.toList, isReceiver first = true := by
  rw [hasReceiver] at receiver
  split at receiver
  case h_2 => contradiction
  case h_1 first rest same =>
    rw [same]
    cases first with
    | selfParameter attributes reference mutable type =>
        exact ⟨_, List.mem_cons_self, rfl⟩
    | typedParameter => contradiction
    | variadicParameter => contradiction

/-- Where there is nothing to leave out, a signature states itself. -/
theorem stated_eq_self
    {head : FunctionHead}
    {name : String}
    {generics : Node .generics}
    {parameters : List (Node .parameter)}
    {trailing : Bool}
    {output : Node (.maybe .type)}
    (something : parameters ≠ [])
    (isPlain : head = .plain head.isAsync)
    (fixed : parameters.any Grammar.isVariadic = false) :
    (Node.functionSignature head name generics (.ofList parameters) trailing output).stated
      = .functionSignature head name generics (.ofList parameters) trailing output := by
  rw [Node.stated_functionSignature, fixedParameters_of_not_isVariadic something fixed, ← isPlain]

/-- Where anything is left out, tokens are missing. -/
theorem nothing_missing_of_bare_stated
    {parameters : List (Node .parameter)}
    (head : FunctionHead)
    (name : String)
    (generics : Node .generics)
    (trailing : Bool)
    (output : Node (.maybe .type))
    (receiver : ∃ first ∈ parameters, isReceiver first = true)
    (rest : List Token)
    (same : ((Node.functionSignature head name generics (.ofList parameters) trailing
        output).stated.tokens ++ rest).map Token.bare
      = ((Node.functionSignature head name generics (.ofList parameters) trailing
        output).tokens ++ rest).map Token.bare) :
    head = .plain head.isAsync ∧ parameters.any Grammar.isVariadic = false := by
  rw [Node.stated_functionSignature] at same
  have lengths := congrArg List.length same
  rw [List.length_map, List.length_map, Node.tokens_signature_append,
    Node.tokens_signature_append] at lengths
  simp only [List.length_append, List.length_cons] at lengths
  obtain ⟨shorter, isPlain⟩ := head.length_tokens
  have inputs : (Spelling.commaSeparated ((fixedParameters parameters trailing).1.map Node.tokens)
        (fixedParameters parameters trailing).2).length
      ≤ (Spelling.commaSeparated (parameters.map Node.tokens) trailing).length := by
    cases variadic : parameters.any Grammar.isVariadic with
    | true => exact (length_fixedParameters trailing (fixedParameters_ne_nil receiver) variadic).le
    | false =>
        obtain ⟨first, member, -⟩ := receiver
        rw [fixedParameters_of_not_isVariadic (List.ne_nil_of_mem member) variadic]
  refine ⟨isPlain (by omega), ?_⟩
  rw [Bool.eq_false_iff]
  intro variadic
  have missing := length_fixedParameters trailing (fixedParameters_ne_nil receiver) variadic
  omega

/-- The text of an accepted signature never reads back as a signature with other words than `async`
in front of `fn`. Where the parts of the signature are legible, the text is scanned to the tokens
of the signature that is left when those words and the variadic parameter are taken away, each
operator in one piece, and they are those of the signature exactly if it has none of them. -/
theorem Method.signature_reads_back_iff
    {interface : String}
    {signature : Node .signature}
    {method : Method}
    (accepted : Method.ofSignature interface signature = .ok method)
    (receiver : hasReceiver signature = true) :
    (∀ read, readMethodText (method.signature ++ ";") = some read →
        read.spell true = signature.named.spell true →
        signature.head = .plain signature.head.isAsync)
      ∧ (signature.named.IsLegible →
        ∃ row, Scan.tokens? (method.signature ++ ";").toList = some row
          ∧ Token.ReadsAs (signature.named.stated.spell true ++ Token.marks ";") row
          ∧ (Token.ReadsAs (signature.named.spell true ++ Token.marks ";") row
            ↔ signature.head = .plain signature.head.isAsync ∧ signature.isVariadic = false)) := by
  cases signature with
  | functionSignature head name generics parameters trailing output =>
  have text := signature_of_ofSignature accepted
  constructor
  · intro read reads same
    obtain ⟨otherName, otherGenerics, otherParameters, otherTrailing, otherOutput, rfl⟩ :=
      exists_of_readMethodText text reads
    obtain ⟨front, readRow⟩ := Node.exists_spell_signature true (.plain head.isAsync) otherName
      otherGenerics otherParameters otherTrailing otherOutput
    obtain ⟨back, row⟩ := Node.exists_spell_signature true head name generics
      (.ofList (nameWildcards 0 parameters.toList)) trailing output
    rw [readRow, Node.named, row] at same
    exact FunctionHead.eq_plain_of_append same
  · rintro ⟨word, lead, conditions, inputs, outputs⟩
    rw [Node.toList_ofList] at inputs
    have fixed : ∀ parameter ∈ (fixedParameters (nameWildcards 0 parameters.toList) trailing).1,
        Token.IsKept parameter.tokens (parameter.spell true) :=
      fun parameter member => inputs parameter (List.mem_of_mem_filter member)
    obtain ⟨row, scanned, reads⟩ := exists_tokens_of_signature word lead.isRow conditions.isRow
      (fun parameter member => (inputs parameter member).isRow)
      (fun type member => (outputs type member).isRow) text
    refine ⟨row, scanned, ?_, ?_⟩
    · rwa [Node.named, Node.stated_functionSignature,
        Node.spell_true_signature _ _ _ lead conditions fixed outputs,
        ← Node.stated_functionSignature]
    · have first := exists_receiver_nameWildcards receiver
      rw [Node.named, Node.spell_true_signature _ _ _ lead conditions inputs outputs,
        Node.isVariadic, ← any_isVariadic_nameWildcards 0]
      constructor
      · intro readsAll
        exact nothing_missing_of_bare_stated head name generics trailing output first
          (Token.marks ";") (reads.map_bare.symm.trans readsAll.map_bare)
      · rintro ⟨isPlain, noVariadic⟩
        have isPlain : head = .plain head.isAsync := isPlain
        obtain ⟨_, member, -⟩ := first
        rwa [stated_eq_self (List.ne_nil_of_mem member) isPlain noVariadic] at reads

/-- A method with a receiver and nothing else, which callers have to check. -/
def uncheckedSignature : Node .signature :=
  .functionSignature ⟨false, false, true, none⟩ "f" (.genericList false .nil false .absent false)
    (.ofList [.selfParameter .nil (some none) false .absent]) false .absent

theorem uncheckedSignature_isLegible : uncheckedSignature.named.IsLegible := by
  have empty : Token.IsKept [] [] := ⟨.nil, rfl⟩
  refine ⟨by decide, empty, empty, ?_, ?_⟩
  · intro parameter member
    obtain rfl : parameter = .selfParameter .nil (some none) false .absent :=
      List.mem_singleton.mp member
    exact ⟨⟨by decide, by decide, by decide, by decide⟩, rfl⟩
  · rintro _ ⟨⟩

/-- The text of the signature is one of a method that callers need not check. -/
theorem Method.signature_of_unchecked_never_reads_back :
    ∃ method, Method.ofSignature "Calc" uncheckedSignature = .ok method
      ∧ hasReceiver uncheckedSignature = true
      ∧ (∀ read, readMethodText (method.signature ++ ";") = some read →
          read.spell true ≠ uncheckedSignature.named.spell true)
      ∧ uncheckedSignature.named.IsLegible
      ∧ ∃ row, Scan.tokens? (method.signature ++ ";").toList = some row
        ∧ ¬Token.ReadsAs (uncheckedSignature.named.spell true ++ Token.marks ";") row := by
  obtain ⟨method, accepted⟩ : ∃ method,
      Method.ofSignature "Calc" uncheckedSignature = .ok method := ⟨_, rfl⟩
  have notPlain : uncheckedSignature.head ≠ .plain uncheckedSignature.head.isAsync :=
    fun same => absurd (congrArg FunctionHead.isUnchecked same) (by decide)
  obtain ⟨neverReads, scans⟩ := Method.signature_reads_back_iff accepted rfl
  obtain ⟨row, scanned, -, isAll⟩ := scans uncheckedSignature_isLegible
  exact ⟨method, accepted, rfl, fun read reads same => notPlain (neverReads read reads same),
    uncheckedSignature_isLegible, row, scanned, fun same => notPlain (isAll.mp same).1⟩

end Scaffold
