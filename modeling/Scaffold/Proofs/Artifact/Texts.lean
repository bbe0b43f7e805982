import Scaffold.Proofs.Artifact.Parts
import Scaffold.Proofs.Artifact.Survey

/-!
Contract: the texts that stand in the lines of a service as whole tokens.

Owns:
- what the scanner reads of a text in front of a stop;
- the text of a signature as the head of a function;
- the text of a type, which its tokens spell again.

Does not own: the lines.
-/

namespace Scaffold

open Source Source.Scan Artifact

/-- What the scanner reads of a text in front of a stop. -/
def IsRead (holds : List Token → Prop) (text : String) : Prop :=
  ∀ rest, Stops rest → ∃ row, Passes (text.toList ++ rest) row rest ∧ holds (row.map Token.sketch)

namespace IsRead

section Lines

variable
  {holds : List Token → Prop}
  {text : String}
  {char : Char}
  {line : Line}
  {glyphs back : List Glyph}
  {front rear : List Token}

theorem inFront
    (reads : IsRead holds text)
    (stop : isStop char = true)
    (below : List Char) :
    ∃ row, Passes (text.toList ++ (Glyph.charactersOf (.known char :: back) ++ '\n' :: below)) row
        (Glyph.charactersOf (.known char :: back) ++ '\n' :: below)
      ∧ holds (row.map Token.sketch) :=
  reads _ (by rintro _ ⟨⟩; exact stop)

/-- A line with the text in it, in front of a stop. -/
theorem inLine
    (reads : IsRead holds text)
    (shows_ : line.Shows glyphs)
    (found : Glyph.around? glyphs = some (front, text, .known char :: back, rear))
    (stop : isStop char = true) :
    line.Reads fun row => ∃ middle, holds middle ∧ row = front ++ middle ++ rear :=
  shows_.reads_around found (reads.inFront stop)

/-- A line with the text in the head of a block. -/
theorem opens
    (reads : IsRead holds text)
    (shows_ : line.Shows glyphs)
    (found : Glyph.around? glyphs = some (front, text, .known char :: back, rear ++ [.opening .brace]))
    (stop : isStop char = true) :
    line.Reads (Opens fun head => ∃ middle, holds middle ∧ head = front ++ middle ++ rear) :=
  shows_.opens_around found (reads.inFront stop)

end Lines

end IsRead

/-! ### Signatures -/

/-- The function that a method is. -/
def Method.routine (method : Method) : Routine :=
  ⟨method.isAsync, method.name⟩

namespace Source

theorem exists_of_map_bare_eq_word
    {row : List Token}
    {text : String}
    {rest : List Token}
    (same : row.map Token.bare = .word text :: rest) :
    ∃ behind, row = .word text :: behind ∧ behind.map Token.bare = rest := by
  obtain ⟨token, behind, rfl, isWord, sameBehind⟩ := List.map_eq_cons_iff.mp same
  cases token with
  | word => exact ⟨behind, by cases isWord; rfl, sameBehind⟩
  | mark | literal | opening | closing => cases isWord

/-- A head is that of a function if it begins like one, however its marks are spaced. -/
theorem routine?_of_map_bare
    {row rest : List Token}
    {isAsync : Bool}
    {name : String}
    (same : row.map Token.bare = (FunctionHead.plain isAsync).tokens ++ .word name :: rest) :
    routine? (row.map Token.sketch) = some ⟨isAsync, name⟩
      ∧ declaredAhead (Token.surface 0 (row.map Token.sketch)) = some ⟨"fn", name⟩ := by
  cases isAsync with
  | false =>
      obtain ⟨_, rfl, sameBehind⟩ := exists_of_map_bare_eq_word same
      obtain ⟨_, rfl, -⟩ := exists_of_map_bare_eq_word sameBehind
      exact ⟨rfl, rfl⟩
  | true =>
      have begins : row.map Token.bare
          = .word "async" :: .word "fn" :: .word name :: rest := same
      obtain ⟨_, rfl, sameFunction⟩ := exists_of_map_bare_eq_word begins
      obtain ⟨_, rfl, sameBehind⟩ := exists_of_map_bare_eq_word sameFunction
      obtain ⟨_, rfl, -⟩ := exists_of_map_bare_eq_word sameBehind
      exact ⟨rfl, rfl⟩

end Source

/-- A row that no entry ends in, and that is the head of the function. -/
structure IsHeadOf (routine : Routine) (row : List Token) : Prop where
  flat : IsFlat ';' row
  reads : routine? row = some routine
  declares : declaredAhead (Token.surface 0 row) = some ⟨"fn", routine.name⟩

/-- The signature of a method as text is the head of its function. -/
theorem Method.isRead_signature
    {interface : String}
    {signature : Node .signature}
    {method : Method}
    (accepted : Method.ofSignature interface signature = .ok method)
    (legible : signature.named.IsLegible)
    (flat : IsFlat ';' signature.named.stated.tokens) :
    IsRead (IsHeadOf method.routine) method.signature := by
  intro rest stops
  obtain ⟨row, passes, same⟩ := (spells_of_ofSignature accepted legible).passes stops
  refine ⟨row, passes, ?_⟩
  have flatRow : IsFlat ';' (row.map Token.sketch) := by
    rwa [isFlat_map_sketch, ← isFlat_map_bare, same, isFlat_map_bare]
  cases signature with
  | functionSignature head name generics parameters trailing output =>
      obtain ⟨all, -, accepted⟩ := except_bind_eq_ok.mp accepted
      obtain ⟨results, -, accepted⟩ := except_bind_eq_ok.mp accepted
      cases accepted
      rw [Node.named, Node.stated_functionSignature, Node.tokens_signature, List.map_append] at same
      have words : (FunctionHead.plain head.isAsync).tokens.map Token.bare
          = (FunctionHead.plain head.isAsync).tokens := by
        cases head.isAsync <;> rfl
      rw [words] at same
      obtain ⟨reads, declares⟩ := routine?_of_map_bare same
      exact ⟨flatRow, reads, declares⟩

/-! ### Types -/

/-- A balanced row that spells a text. -/
structure HasText (text : String) (row : List Token) : Prop where
  balanced : Token.openBehind [] row = some []
  spelled : String.join (row.map Token.spelled) = text

/-- A row that spells a text, and that nothing but a colon ends. -/
structure IsTyped (text : String) (row : List Token) : Prop extends HasText text row where
  flat : ∀ separator, separator ≠ ':' → IsFlat separator row

namespace HasText

variable
  {front back : String}
  {row rest : List Token}

theorem append (first : HasText front row) (second : HasText back rest) :
    HasText (front ++ back) (row ++ rest) := by
  constructor
  · rw [Token.openBehind_append, first.balanced, Option.bind_some, second.balanced]
  · rw [List.map_append, String.join_append, first.spelled, second.spelled]

theorem group (inside : HasText front row) :
    IsTyped ("(" ++ front ++ ")") (.opening .parenthesis :: (row ++ [.closing .parenthesis])) := by
  have flat (separator : Char) :
      IsFlat separator (.opening .parenthesis :: (row ++ [.closing .parenthesis])) :=
    IsFlat.group (by decide) inside.balanced
  refine ⟨⟨(flat ';').balanced, ?_⟩, fun separator _ => flat separator⟩
  simp [String.join_cons, String.join_append, inside.spelled, Token.spelled, Delimiter.openingText,
    Delimiter.closingText, String.append_assoc]

end HasText

theorem isTyped_tokensOf {names : List String} (something : names ≠ []) :
    IsTyped (joinedBy "::" names) ((ModulePath.tokensOf names).map Token.sketch) := by
  induction names with
  | nil => contradiction
  | cons name names inductionHypothesis =>
      cases names with
      | nil =>
          exact ⟨⟨rfl, by simp [ModulePath.tokensOf, joinedBy, Token.sketch, Token.spelled]⟩,
            fun _ _ => rfl⟩
      | cons next names =>
          have behind := inductionHypothesis (List.cons_ne_nil _ _)
          have flat : ∀ separator, separator ≠ ':' →
              IsFlat separator ((ModulePath.tokensOf (name :: next :: names)).map Token.sketch) := by
            intro separator noColon
            have colons : IsFlat separator [.word name, .mark ':' .joint, .mark ':' .alone] := by
              simp [IsFlat, flatBehind, isFlatAhead, noColon.symm, Token.openBehind]
            exact colons.append (behind.flat separator noColon)
          refine ⟨⟨behind.balanced, ?_⟩, flat⟩
          have colons (text : String) : ":" ++ (":" ++ text) = "::" ++ text :=
            (String.append_assoc ..).symm
          have spelled := behind.spelled
          simp only [List.map_map] at spelled
          simp [ModulePath.tokensOf, Token.sketch, Token.spelled, String.join_cons, spelled, joinedBy,
            String.intercalate_cons_cons, colons, String.append_assoc]

namespace IsRead

variable {front back text : String}

/-- A comma between two texts. -/
theorem comma
    (first : IsRead (HasText front) front)
    (second : IsRead (HasText back) back) :
    IsRead (HasText (front ++ ", " ++ back)) (front ++ ", " ++ back) := by
  intro rest stops
  have stopsComma : Stops (',' :: ' ' :: (back.toList ++ rest)) := by
    rintro _ ⟨⟩
    decide
  obtain ⟨row, passes, known⟩ := first _ stopsComma
  obtain ⟨rowBack, passesBack, knownBack⟩ := second rest stops
  have comma := Passes.mark (by decide : ',' ∈ markChars) (by decide)
    (noComment_of_ne (by decide) : NoComment (',' :: ' ' :: (back.toList ++ rest)))
  have whole := passes.trans (comma.trans ((Passes.blank (by decide)).trans passesBack))
  refine ⟨_, by simpa using whole, ?_⟩
  rw [List.map_append]
  have isComma : HasText ", " [.mark ',' .alone] := ⟨rfl, rfl⟩
  exact String.append_assoc .. ▸ known.append (isComma.append knownBack)

theorem joined
    {parts : List String}
    (inside : ∀ part ∈ parts, IsRead (HasText part) part) :
    IsRead (HasText (joinedBy ", " parts)) (joinedBy ", " parts) := by
  induction parts with
  | nil => exact fun rest _ => ⟨[], Passes.refl rest, rfl, rfl⟩
  | cons part parts inductionHypothesis =>
      rw [List.forall_mem_cons] at inside
      have below := inductionHypothesis inside.2
      cases parts with
      | nil => simpa [joinedBy] using inside.1
      | cons next parts =>
          have whole := inside.1.comma below
          simpa [joinedBy, String.intercalate_cons_cons, String.append_assoc] using whole

/-- A text in parentheses. -/
theorem group
    (inside : IsRead (HasText text) text)
    (noSlash : text.toList.head? ≠ some '/') :
    IsRead (IsTyped ("(" ++ text ++ ")")) ("(" ++ text ++ ")") := by
  intro rest _
  obtain ⟨row, passes, known⟩ := inside (')' :: rest) (by rintro _ ⟨⟩; decide)
  have plain : NoComment (text.toList ++ ')' :: rest) := by
    have begins : (text.toList ++ ')' :: rest).head? ≠ some '/' := by
      cases spelled : text.toList with
      | nil => simp
      | cons char behind =>
          rw [spelled] at noSlash
          exact noSlash
    intro behind
    constructor <;> intro same <;> rw [same] at begins <;> exact begins rfl
  have opens : Passes ('(' :: (text.toList ++ ')' :: rest)) [.opening .parenthesis]
    (text.toList ++ ')' :: rest) := Passes.opening .parenthesis plain
  have closes : Passes (')' :: rest) [.closing .parenthesis] rest := Passes.closing .parenthesis
  have whole := opens.trans (passes.trans closes)
  exact ⟨_, by simpa using whole, by simpa [Token.sketch] using known.group⟩

theorem unit : IsRead (IsTyped "()") "()" := by
  have nothing : IsRead (HasText "") "" := fun rest _ => ⟨[], Passes.refl rest, rfl, rfl⟩
  exact nothing.group (by decide)

theorem path
    {names : List String}
    (something : names ≠ [])
    (words : ∀ name ∈ names, isWord name = true) :
    IsRead (IsTyped (joinedBy "::" names)) (joinedBy "::" names) := fun _ stops =>
  ⟨_, ModulePath.passes_names something words stops, isTyped_tokensOf something⟩

theorem mono
    {holds more : List Token → Prop}
    (reads : IsRead holds text)
    (follows : ∀ row, holds row → more row) :
    IsRead more text := by
  intro rest stops
  obtain ⟨row, passes, known⟩ := reads rest stops
  exact ⟨row, passes, follows _ known⟩

end IsRead

section Method

variable
  {interface : String}
  {signature : Node .signature}
  {method : Method}

theorem isRead_of_isWordedBy
    {reference : TypeRef}
    (legible : signature.named.IsLegible)
    (worded : reference.IsWordedBy signature.named.tokens) :
    IsRead (IsTyped reference.text) reference.text := by
  rcases worded with unit | ⟨names, something, spelled, inRow⟩
  · rw [unit]
    exact IsRead.unit
  · rw [spelled]
    exact IsRead.path something fun name member => Node.isWord_of_mem_named legible (inRow name member)

/-- The texts of a method are read as its signature and its types. -/
structure Method.IsReadable (method : Method) : Prop where
  head : IsRead (IsHeadOf method.routine) method.signature
  parameters : ∀ parameter ∈ method.forwarded, IsRead (IsTyped parameter.type.text) parameter.type.text
  value : IsRead (IsTyped method.valueType) method.valueType

theorem Method.isReadable_of_ofSignature
    (accepted : Method.ofSignature interface signature = .ok method)
    (legible : signature.named.IsLegible)
    (noImport : .word "use" ∉ signature.named.tokens)
    (flat : IsFlat ';' signature.named.stated.tokens) :
    method.IsReadable := by
  obtain ⟨-, inputs, outputs⟩ := Method.names_of_ofSignature accepted
  have results : ∀ result ∈ method.results,
      IsRead (IsTyped result.type.text) result.type.text ∧ IsCode result.type.text.toList :=
    fun result member => ⟨isRead_of_isWordedBy legible (outputs result member),
      isCode_of_isWordedBy legible noImport (outputs result member)⟩
  refine ⟨Method.isRead_signature accepted legible flat,
    fun parameter member => isRead_of_isWordedBy legible (inputs parameter member).2, ?_⟩
  unfold Method.valueType
  split
  · exact IsRead.unit
  · next same => exact (results _ (by simp [same])).1
  · next same => exact (results _ (by simp [same])).1
  · next many _ =>
      apply IsRead.group
      · apply IsRead.joined
        intro part member
        obtain ⟨result, inResults, rfl⟩ := List.mem_map.mp member
        exact (results result inResults).1.mono fun _ => IsTyped.toHasText
      · refine (IsCode.joined ?_).noSlash
        intro part member
        obtain ⟨result, inResults, rfl⟩ := List.mem_map.mp member
        exact (results result inResults).2

end Method

end Scaffold
