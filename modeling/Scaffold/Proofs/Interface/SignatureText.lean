import Scaffold.Interface.Declaration
import Scaffold.Proofs.Failure
import Scaffold.Proofs.Source.Head
import Scaffold.Proofs.Source.Row

/-!
Contract: the text of the signature of a method, as tokens.

Owns:
- the signature that the text of a method states;
- the pieces that the text is pasted from, each with the row of tokens that it spells;
- the tokens that the whole text is scanned to.

Does not own: what the stated signature lacks of the declared one.
-/

namespace Scaffold

open Source

/-! ### Signatures -/

namespace Source.Node

/-- What stands in front of the name. -/
def head : Node .signature → FunctionHead
  | .functionSignature head _ _ _ _ _ => head

/-- Is one of the parameters variadic? -/
def isVariadic : Node .signature → Bool
  | .functionSignature _ _ _ parameters _ _ => parameters.toList.any Grammar.isVariadic

/-- The signature with every underscore among its parameters named. -/
def named : Node .signature → Node .signature
  | .functionSignature head name generics parameters trailing output =>
      .functionSignature head name generics (.ofList (nameWildcards 0 parameters.toList)) trailing
        output

/-- The signature that a text of it is made of: of what stands in front of the name nothing but
`async`, and the parameters that take a fixed number of arguments. -/
def stated : Node .signature → Node .signature
  | .functionSignature head name generics parameters trailing output =>
      let (fixed, comma) := fixedParameters parameters.toList trailing
      .functionSignature (.plain head.isAsync) name generics (.ofList fixed) comma output

end Source.Node

/-- Naming underscores leaves a variadic parameter what it is. -/
theorem any_isVariadic_nameWildcards (index : Nat) (parameters : List (Node .parameter)) :
    (nameWildcards index parameters).any Grammar.isVariadic = parameters.any Grammar.isVariadic := by
  fun_induction nameWildcards index parameters with
  | case1 => rfl
  | case2 index attributes type rest inductionHypothesis => exact inductionHypothesis
  | case3 index attributes pattern type rest _ inductionHypothesis => exact inductionHypothesis
  | case4 index parameter rest _ _ inductionHypothesis =>
      rw [List.any_cons, List.any_cons, inductionHypothesis]

/-- A row that is printed as it is spelled in full, and kept by printing and scanning. -/
structure Source.Token.IsKept (printed full : List Token) : Prop where
  isRow : IsRow printed
  inFull : full = printed

/-- Are all parts of a signature printed as they are spelled in full, and kept by printing and
scanning? -/
def Source.Node.IsLegible : Node .signature → Prop
  | .functionSignature _ name generics parameters _ output =>
      Scan.isWord name = true
        ∧ Token.IsKept generics.tokens.1 (generics.spell true).1
        ∧ Token.IsKept generics.tokens.2 (generics.spell true).2
        ∧ (∀ parameter ∈ parameters.toList, Token.IsKept parameter.tokens (parameter.spell true))
        ∧ ∀ type ∈ output.toOption, Token.IsKept type.tokens (type.spell true)

/-! ### The text of a signature -/

namespace Source

namespace Token

variable {row : List Token} {text : List Char}

theorem pastes_semicolon : Pastes (marks ";") [';'] :=
  (spells_singleton (.mark ';' .alone) (by decide) rfl).pastes
    (by rintro _ ⟨⟩; exact ⟨rfl, rfl⟩)

theorem Pastes.behindParenthesis (pastes : Pastes row text) :
    Pastes (.closing .parenthesis :: row) (')' :: text) := by
  have closing : Pastes [.closing .parenthesis] [')'] :=
    (spells_singleton (.closing .parenthesis) rfl rfl).pastes
      (by rintro _ ⟨⟩; exact ⟨rfl, rfl⟩)
  exact closing.append pastes

theorem Spells.parenthesis (spells : Spells row text) :
    Pastes (.opening .parenthesis :: row) ('(' :: text) := by
  have opening : Spells (.opening .parenthesis :: row) ('(' :: text) :=
    spells.cons_touching (.opening .parenthesis) rfl rfl (fun _ => rfl) rfl
  exact opening.pastes (by rintro _ ⟨⟩; exact ⟨rfl, rfl⟩)

end Token

/-- The text of the conditions of generic parameters. -/
def conditionsText : Node .generics → String
  | .genericList bracketed parameters trailing (.present list) conditionsTrailing =>
      " " ++ Text.compact (Token.textOf
        (Node.genericList bracketed parameters trailing (.present list) conditionsTrailing).tokens.2)
  | .genericList _ _ _ .absent _ => ""

/-- The text of a return type. -/
def outputText : Option (Node .type) → String
  | some type => " -> " ++ compactType type
  | none => ""

theorem noComment_of_conditions
    (rows : List (List Token))
    (trailing : Bool) :
    ∀ first ∈ ((Spelling.wordIf (false || !rows.isEmpty) "where"
      ++ Spelling.commaSeparated rows trailing) ++ Token.marks ";").head?,
        first.makesComment = false := by
  cases rows with
  | nil => cases trailing <;> (rintro _ ⟨⟩; rfl)
  | cons row rows => rintro _ ⟨⟩; rfl

/-- The conditions of generic parameters, in front of what ends a signature. -/
theorem pastes_conditions
    {generics : Node .generics}
    (isRow : Token.IsRow generics.tokens.2) :
    Token.Pastes (generics.tokens.2 ++ Token.marks ";")
      ((conditionsText generics).toList ++ [';']) := by
  cases generics with
  | genericList bracketed parameters trailing conditions conditionsTrailing =>
      cases conditions with
      | absent => exact Token.pastes_semicolon
      | present list =>
          have spells := isRow.spells.append Token.pastes_semicolon
          have pastes := spells.behindBlank (by simp [Token.marks, Token.marksOf])
            (noComment_of_conditions (list.spell false) conditionsTrailing)
          rw [conditionsText, String.toList_append, List.append_assoc,
            show " ".toList = [' '] from rfl, List.singleton_append]
          exact pastes

/-- The return type, in front of a text that may be pasted. -/
theorem pastes_output
    {output : Option (Node .type)}
    {rest : List Token}
    {behind : List Char}
    (isRow : ∀ type ∈ output, Token.IsRow type.tokens)
    (pastes : Token.Pastes rest behind)
    (something : rest ≠ []) :
    Token.Pastes (Spelling.output (output.map Node.tokens) ++ rest)
      ((outputText output).toList ++ behind) := by
  cases output with
  | none => exact pastes
  | some type =>
      have arrow := ((isRow type rfl).spells.append pastes).behindArrow (by simp [something])
      rw [outputText, String.toList_append, List.append_assoc]
      show Token.Pastes ((Token.marks "->" ++ type.tokens) ++ rest) _
      rw [List.append_assoc]
      exact arrow

theorem pastes_lead
    {generics : Node .generics}
    {rest : List Token}
    {behind : List Char}
    (isRow : Token.IsRow generics.tokens.1)
    (pastes : Token.Pastes rest behind) :
    Token.Pastes (generics.tokens.1 ++ rest)
      ((Text.compact (Token.textOf generics.tokens.1)).toList ++ behind) := by
  refine Token.Pastes.append (isRow.spells.pastes ?_) pastes
  cases generics with
  | genericList bracketed parameters trailing conditions conditionsTrailing =>
      show ∀ first ∈ (if (false && bracketed) || !(parameters.spell false).isEmpty then
          Spelling.angled (Spelling.lifetimesLed false parameters (parameters.spell false) trailing)
        else []).head?, first.makesComment = false ∧ first.opensAhead = true
      split
      · rintro _ ⟨⟩
        exact ⟨rfl, rfl⟩
      · rintro _ ⟨⟩

end Source

theorem suffixText_eq
    (generics : Node .generics)
    (parameters : List (Node .parameter))
    (trailing : Bool)
    (output : Option (Node .type)) :
    suffixText generics parameters trailing output
      = Text.compact (Token.textOf generics.tokens.1) ++ "("
        ++ Text.compact (Token.textOf (Spelling.commaSeparated
          ((fixedParameters parameters trailing).1.map Node.tokens)
          (fixedParameters parameters trailing).2)) ++ ")"
        ++ outputText output ++ conditionsText generics := by
  cases generics with
  | genericList bracketed parameters trailing conditions conditionsTrailing =>
      cases conditions <;> cases output <;> rfl

/-! ### Reading the text back -/

namespace Source.Node

@[simp] theorem spell_ofList
    {c : Category}
    (full : Bool)
    (nodes : List (Node c)) :
    ((ofList nodes).spell full : List (Spelled c)) = nodes.map (Node.spell full) := by
  induction nodes with
  | nil => rfl
  | cons node nodes inductionHypothesis =>
      show node.spell full :: (ofList nodes).spell full = _
      rw [inductionHypothesis, List.map_cons]

theorem stated_functionSignature
    (head : FunctionHead)
    (name : String)
    (generics : Node .generics)
    (parameters : List (Node .parameter))
    (trailing : Bool)
    (output : Node (.maybe .type)) :
    (functionSignature head name generics (ofList parameters) trailing output).stated
      = functionSignature (.plain head.isAsync) name generics
          (ofList (fixedParameters parameters trailing).1)
          (fixedParameters parameters trailing).2 output := by
  rw [stated, toList_ofList]

/-- The tokens of a signature in their order, in front of others. -/
theorem tokens_signature_append
    (head : FunctionHead)
    (name : String)
    (generics : Node .generics)
    (parameters : List (Node .parameter))
    (trailing : Bool)
    (output : Node (.maybe .type))
    (rest : List Token) :
    (functionSignature head name generics (ofList parameters) trailing output).tokens ++ rest
      = head.tokens ++ .word name :: (generics.tokens.1 ++ .opening .parenthesis
        :: (Spelling.commaSeparated (parameters.map Node.tokens) trailing ++ .closing .parenthesis
          :: (Spelling.output (output.toOption.map Node.tokens) ++ (generics.tokens.2 ++ rest)))) := by
  have spelled : (functionSignature head name generics (ofList parameters) trailing output).tokens
      = head.tokens ++ Spelling.word name ++ generics.tokens.1
        ++ Spelling.parenthesized (Spelling.commaSeparated ((ofList parameters).spell false) trailing)
        ++ Spelling.output (output.spell false) ++ generics.tokens.2 := rfl
  have outputs : (output.spell false : Option (List Token)) = output.toOption.map Node.tokens := by
    cases output <;> rfl
  rw [spelled, outputs, spell_ofList]
  simp [Spelling.word, Spelling.parenthesized, Token.group]
  rfl

end Source.Node

/-- The parts of a text that a signature is spelled with, in front of the semicolon. -/
theorem spells_signature
    {head : FunctionHead}
    {name : String}
    {generics : Node .generics}
    {parameters : List (Node .parameter)}
    {trailing : Bool}
    {output : Node (.maybe .type)}
    (word : Scan.isWord name = true)
    (lead : Token.IsRow generics.tokens.1)
    (conditions : Token.IsRow generics.tokens.2)
    (inputs : ∀ parameter ∈ parameters, Token.IsRow parameter.tokens)
    (outputs : ∀ type ∈ output.toOption, Token.IsRow type.tokens) :
    Token.Spells
      ((Node.functionSignature head name generics (.ofList parameters) trailing output).stated.tokens
        ++ Token.marks ";")
      ((if head.isAsync then "async " else "").toList
        ++ ("fn ".toList ++ (name.toList
          ++ ((suffixText generics parameters trailing output.toOption).toList ++ [';'])))) := by
  have fixed : ∀ row ∈ (fixedParameters parameters trailing).1.map Node.tokens, Token.IsRow row := by
    intro row member
    obtain ⟨parameter, found, rfl⟩ := List.mem_map.mp member
    exact inputs parameter (List.mem_of_mem_filter found)
  have behindName := pastes_lead lead
    (Token.Spells.parenthesis
      ((Spelling.isRow_commaSeparated fixed (fixedParameters parameters trailing).2).spells.append
        (Token.Pastes.behindParenthesis
          (pastes_output outputs (pastes_conditions conditions) (by simp [Token.marks, Token.marksOf])))))
  have behindWord := (Token.spells_singleton (.word name) word rfl).append behindName
  have behindFn := behindWord.cons_blank (.word "fn") (by simp) (by decide) rfl (fun _ => rfl)
  rw [Node.stated_functionSignature, Node.tokens_signature_append, suffixText_eq]
  simp only [String.toList_append, List.append_assoc, show "(".toList = ['('] from rfl,
    show ")".toList = [')'] from rfl, show "fn ".toList = "fn".toList ++ [' '] from rfl,
    List.singleton_append]
  cases head.isAsync with
  | false => exact behindFn
  | true =>
      rw [if_pos rfl, show "async ".toList = "async".toList ++ [' '] from rfl, List.append_assoc,
        List.singleton_append]
      exact behindFn.cons_blank (.word "async") (by simp) (by decide) rfl (fun _ => rfl)
namespace Source

theorem balanced_signature
    {generics : Node .generics}
    {parameters : List (Node .parameter)}
    {output : Node (.maybe .type)}
    (isAsync : Bool)
    (name : String)
    (trailing : Bool)
    (lead : Token.IsRow generics.tokens.1)
    (conditions : Token.IsRow generics.tokens.2)
    (inputs : ∀ parameter ∈ parameters, Token.IsRow parameter.tokens)
    (outputs : ∀ type ∈ output.toOption, Token.IsRow type.tokens) :
    Token.openBehind []
      ((Node.functionSignature (.plain isAsync) name generics (.ofList parameters) trailing
        output).tokens ++ Token.marks ";") = some [] := by
  have rows : ∀ row ∈ parameters.map Node.tokens, Token.IsRow row := by
    intro row member
    obtain ⟨parameter, found, rfl⟩ := List.mem_map.mp member
    exact inputs parameter found
  have outputRow : Token.openBehind [] (Spelling.output (output.toOption.map Node.tokens)) = some [] := by
    cases isType : output.toOption with
    | none => rfl
    | some type => exact (outputs type isType).balanced
  have words (rest : List Token) :
      Token.openBehind [] ((FunctionHead.plain isAsync).tokens ++ .word name :: rest)
        = Token.openBehind [] rest := by
    cases isAsync <;> rfl
  rw [Node.tokens_signature_append, words, Token.openBehind_of_balanced lead.balanced]
  show Token.openBehind [.parenthesis] _ = _
  rw [Token.openBehind_of_balanced (Spelling.isRow_commaSeparated rows trailing).balanced]
  show Token.openBehind [] _ = _
  rw [Token.openBehind_of_balanced outputRow, Token.openBehind_of_balanced conditions.balanced]
  rfl
namespace Node

theorem exists_spell_signature
    (full : Bool)
    (head : FunctionHead)
    (name : String)
    (generics : Node .generics)
    (parameters : Node (.many .parameter))
    (trailing : Bool)
    (output : Node (.maybe .type)) :
    ∃ rest, (functionSignature head name generics parameters trailing output).spell full
      = head.tokens ++ rest := by
  refine ⟨Spelling.word name ++ ((generics.spell full).1
    ++ (Spelling.parenthesized (Spelling.commaSeparated (parameters.spell full) trailing)
      ++ (Spelling.output (output.spell full) ++ (generics.spell full).2))), ?_⟩
  simp only [← List.append_assoc]
  rfl

theorem spell_true_signature
    {generics : Node .generics}
    {parameters : List (Node .parameter)}
    {output : Node (.maybe .type)}
    (head : FunctionHead)
    (name : String)
    (trailing : Bool)
    (lead : Token.IsKept generics.tokens.1 (generics.spell true).1)
    (conditions : Token.IsKept generics.tokens.2 (generics.spell true).2)
    (inputs : ∀ parameter ∈ parameters, Token.IsKept parameter.tokens (parameter.spell true))
    (outputs : ∀ type ∈ output.toOption, Token.IsKept type.tokens (type.spell true)) :
    (functionSignature head name generics (ofList parameters) trailing output).spell true
      = (functionSignature head name generics (ofList parameters) trailing output).tokens := by
  have spelled (full : Bool) :
      (functionSignature head name generics (ofList parameters) trailing output).spell full
        = head.tokens ++ Spelling.word name ++ (generics.spell full).1
          ++ Spelling.parenthesized
            (Spelling.commaSeparated ((ofList parameters).spell full) trailing)
          ++ Spelling.output (output.spell full) ++ (generics.spell full).2 := rfl
  have rows : parameters.map (spell true) = parameters.map (spell false) :=
    List.map_congr_left fun parameter member => (inputs parameter member).inFull
  have types : (output.spell true : Option (List Token)) = output.spell false := by
    cases output with
    | absent => rfl
    | present type => exact congrArg some (outputs type rfl).inFull
  have leads : (generics.spell true).1 = (generics.spell false).1 := lead.inFull
  have behind : (generics.spell true).2 = (generics.spell false).2 := conditions.inFull
  rw [tokens, spelled true, spelled false, spell_ofList, spell_ofList, rows, types, leads, behind]
end Node

end Source

/-- The text of the signature of a method. -/
theorem Method.signature_of_ofSignature
    {interface : String}
    {head : FunctionHead}
    {name : String}
    {generics : Node .generics}
    {parameters : Node (.many .parameter)}
    {trailing : Bool}
    {output : Node (.maybe .type)}
    {method : Method}
    (accepted : Method.ofSignature interface
      (.functionSignature head name generics parameters trailing output) = .ok method) :
    (method.signature ++ ";").toList
      = (if head.isAsync then "async " else "").toList
        ++ ("fn ".toList ++ (name.toList
          ++ ((suffixText generics (nameWildcards 0 parameters.toList) trailing
            output.toOption).toList ++ [';']))) := by
  obtain ⟨all, -, accepted⟩ := except_bind_eq_ok.mp accepted
  obtain ⟨results, -, accepted⟩ := except_bind_eq_ok.mp accepted
  cases accepted
  simp only [String.toList_append, List.append_assoc]
  rfl
/-- The tokens of a text that a legible signature is pasted into. -/
theorem exists_tokens_of_signature
    {head : FunctionHead}
    {name : String}
    {generics : Node .generics}
    {parameters : List (Node .parameter)}
    {trailing : Bool}
    {output : Node (.maybe .type)}
    {text : List Char}
    (word : Scan.isWord name = true)
    (lead : Token.IsRow generics.tokens.1)
    (conditions : Token.IsRow generics.tokens.2)
    (inputs : ∀ parameter ∈ parameters, Token.IsRow parameter.tokens)
    (outputs : ∀ type ∈ output.toOption, Token.IsRow type.tokens)
    (spelled : text = (if head.isAsync then "async " else "").toList
      ++ ("fn ".toList ++ (name.toList
        ++ ((suffixText generics parameters trailing output.toOption).toList ++ [';'])))) :
    ∃ row, Scan.tokens? text = some row
      ∧ Token.ReadsAs
        ((Node.functionSignature head name generics (.ofList parameters) trailing output).stated.tokens
          ++ Token.marks ";") row := by
  have spells : Token.Spells
      ((Node.functionSignature head name generics (.ofList parameters) trailing output).stated.tokens
        ++ Token.marks ";") text := by
    rw [spelled]
    exact spells_signature word lead conditions inputs outputs
  obtain ⟨spaced, rfl, isRow, legible⟩ := spells
  have fixed : ∀ parameter ∈ (fixedParameters parameters trailing).1, Token.IsRow parameter.tokens :=
    fun parameter member => inputs parameter (List.mem_of_mem_filter member)
  have balanced := balanced_signature head.isAsync name (fixedParameters parameters trailing).2 lead
    conditions fixed outputs
  rw [← Node.stated_functionSignature, ← isRow] at balanced
  obtain ⟨row, scans, reads⟩ := legible.scans balanced
  refine ⟨row, ?_, isRow ▸ reads⟩
  have noMark : Scan.withoutByteOrderMark (Spaced.text spaced) = Spaced.text spaced := by
    rw [spelled]
    cases head.isAsync <;> rfl
  rw [Scan.tokens?, noMark]
  exact scans _ (Nat.lt_succ_self _)
end Scaffold
