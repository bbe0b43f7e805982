import Scaffold.Proofs.Source.TypeText

/-!
Contract: what is known of a type that was read from a text.

Owns:
- the words of a row that was scanned;
- the names of a path without arguments that was read;
- the simple types among those that are read: paths of names and the unit, in any parentheses.

Does not own: references to types.
-/

namespace Scaffold.Source

open Source.Parser Source.Grammar Token

/-! ### Words that are scanned -/

namespace Scan

theorem not_word_of_mark?
    {text after : List Char}
    {name : String}
    (found : mark? text = some (.word name, after)) :
    False := by
  obtain ⟨⟨char, rest⟩, -, found⟩ := Option.bind_eq_some_iff.mp found
  dsimp only at found
  split at found
  · obtain ⟨⟨_, behind⟩, -, found⟩ := Option.bind_eq_some_iff.mp found
    dsimp only at found
    split at found
    · cases found
    · split at found <;> cases found
    · cases found
  · cases found

theorem isWord_of_leaf?
    {text after : List Char}
    {name : String}
    (found : leaf? text = some (.word name, after)) :
    isWord name = true := by
  rw [leaf?] at found
  split at found
  · cases found
  · split at found
    · next isMark =>
        cases found
        exact (not_word_of_mark? isMark).elim
    · split at found
      · next found_ isFound =>
          cases found
          rw [word?] at isFound
          exact isWord_of_anyWord? (Option.ite_none_left_eq_some.mp isFound).2
      · obtain ⟨_, -, isLiteral⟩ := Option.map_eq_some_iff.mp found
        cases isLiteral

theorem isWord_of_mem_docTokens
    {doc : DocComment}
    {name : String}
    (member : .word name ∈ docTokens doc) :
    isWord name = true := by
  have isDoc : name = "doc" := by
    cases inner : doc.inner <;> simpa [docTokens, inner, Token.group] using member
  rw [isDoc]
  decide

theorem isWord_of_mem_tokensFrom
    {fuel : Nat}
    {pending : List Delimiter}
    {text : List Char}
    {row : List Token}
    (scanned : tokensFrom fuel pending text = some row) :
    ∀ name, .word name ∈ row → isWord name = true := by
  induction fuel generalizing pending text row with
  | zero => contradiction
  | succ fuel inductionHypothesis =>
      -- Each step puts what it found in front of what is found behind it.
      have behind : ∀ (front) {pending text}, (∀ name, .word name ∈ front → isWord name = true) →
          (tokensFrom fuel pending text).map (front ++ ·) = some row →
          ∀ name, .word name ∈ row → isWord name = true := by
        intro front pending text inFront found
        obtain ⟨rest, scannedRest, rfl⟩ := Option.map_eq_some_iff.mp found
        intro name member
        rcases List.mem_append.mp member with isFront | isRest
        · exact inFront name isFront
        · exact inductionHypothesis scannedRest name isRest
      rw [tokensFrom] at scanned
      split at scanned
      · split at scanned
        · cases scanned
          simp
        · cases scanned
      · split at scanned
        · split at scanned
          · exact behind _ (fun name => isWord_of_mem_docTokens) scanned
          · cases scanned
        · split at scanned
          · exact behind [_] (by simp) scanned
          · split at scanned
            · split at scanned
              · split at scanned
                · exact behind [_] (by simp) scanned
                · cases scanned
              · cases scanned
            · split at scanned
              · next isLeaf =>
                  refine behind [_] ?_ scanned
                  intro name member
                  rw [List.mem_singleton] at member
                  rw [← member] at isLeaf
                  exact isWord_of_leaf? isLeaf
              · cases scanned

/-- Every word among the tokens of a text is one for the scanner. -/
theorem isWord_of_mem_tokens?
    {text : List Char}
    {row : List Token}
    (scanned : tokens? text = some row) :
    ∀ name, .word name ∈ row → isWord name = true :=
  isWord_of_mem_tokensFrom scanned

end Scan

/-! ### Values that a reader answers with -/

namespace Parser

variable
  {α β : Type}
  {reader : Parser α}
  {part : Parser β}
  {next : α → Parser β}
  {holds : β → Prop}

/-- Does every value that the reader answers with have the property? -/
def Answers (reader : Parser α) (holds : α → Prop) : Prop :=
  ∀ ⦃row value rest⦄, reader row = some (value, rest) → holds value

theorem Answers.elim
    (holds : β → Prop)
    {row rest : List Token}
    {value : β}
    (reads : part row = some (value, rest))
    (answers : Answers part holds) :
    holds value :=
  answers reads

theorem Answers.pure {value : β} (isOne : holds value) : Answers (pure value) holds := by
  rintro row _ rest ⟨⟩
  exact isOne

theorem Answers.bind (each : ∀ value, Answers (next value) holds) : Answers (reader >>= next) holds := by
  intro row value rest reads
  obtain ⟨between, _, -, reads⟩ := bind_eq_some reads
  exact each between reads

theorem Answers.ite
    {condition : Prop}
    [Decidable condition]
    {first second : Parser β}
    (ifTrue : condition → Answers first holds)
    (ifFalse : ¬condition → Answers second holds) :
    Answers (if condition then first else second) holds := by
  split
  · next isTrue => exact ifTrue isTrue
  · next isFalse => exact ifFalse isFalse

theorem inside_eq_some
    {content : Parser β}
    {delimiter : Delimiter}
    {row after : List Token}
    {value : β}
    (reads : inside delimiter content row = some (value, after)) :
    ∃ behind closing, row = .opening delimiter :: behind
      ∧ content behind = some (value, .closing closing :: after) := by
  cases row with
  | nil => cases reads
  | cons first behind =>
      cases first with
      | opening ahead =>
          obtain ⟨same, reads⟩ := Option.ite_none_right_eq_some.mp reads
          split at reads
          · next isContent =>
              cases reads
              exact ⟨behind, _, by rw [same], isContent⟩
          · cases reads
      | word | mark | literal | closing => cases reads

theorem Answers.inside
    {content : Parser β}
    (answers : Answers content holds)
    (delimiter : Delimiter) :
    Answers (inside delimiter content) holds := by
  intro row value rest reads
  obtain ⟨_, _, -, isContent⟩ := inside_eq_some reads
  exact answers isContent

theorem optionally_eq_none
    {test : Test}
    {row after : List Token}
    (reads : optionally test reader row = some (none, after)) :
    after = row := by
  have reads := Parser.of_bind_peek reads
  split at reads
  · obtain ⟨_, _, -, reads⟩ := bind_eq_some reads
    cases reads
  · cases reads
    rfl

theorem require_eq_some
    {condition : Bool}
    {row after : List Token}
    (reads : require condition row = some ((), after)) :
    condition = true ∧ after = row := by
  cases condition with
  | true =>
      cases reads
      exact ⟨rfl, rfl⟩
  | false => cases reads

end Parser

/-! ### Paths that are read -/

section Path

variable
  {grammar : Grammar}
  {bound : Parser (Node .bound)}
  {name : String}
  {row after : List Token}

theorem identifier_eq_some (reads : identifier row = some (name, after)) :
    row = .word name :: after ∧ keywords.contains name = false := by
  have reads := Parser.of_bind_peek reads
  obtain ⟨_, _, required, reads⟩ := Parser.bind_eq_some reads
  cases row with
  | nil => cases required
  | cons first rest =>
      cases first with
      | word found =>
          cases isKeyword : keywords.contains found with
          | true =>
              rw [atIdentifier, isKeyword] at required
              cases required
          | false =>
              rw [atIdentifier, isKeyword] at required
              cases required
              cases reads
              exact ⟨rfl, isKeyword⟩
      | mark | literal | opening | closing => cases required

theorem exists_word_of_atWord (ahead : atWord name row = true) : ∃ rest, row = .word name :: rest := by
  cases row with
  | nil => cases ahead
  | cons first rest =>
      cases first with
      | word found => exact ⟨rest, by rw [eq_of_beq ahead]⟩
      | mark | literal | opening | closing => cases ahead

/-- What is read behind the name of a segment that turns out to have no arguments. -/
theorem argumentsBehind_eq_some
    {found : String}
    {between : List Token}
    (reads : (peek atAngled >>= fun angled => if angled = true then do
        return (found, ← angleArguments grammar bound)
      else return (found, .noArguments) : Parser (String × Node .segmentArguments)) between
      = some ((name, .noArguments), after)) :
    found = name ∧ between = after := by
  have reads := Parser.of_bind_peek reads
  split at reads
  · obtain ⟨arguments, _, angled, reads⟩ := Parser.bind_eq_some reads
    obtain ⟨_, _, -, angled⟩ := Parser.bind_eq_some angled
    obtain ⟨_, _, -, angled⟩ := Parser.bind_eq_some angled
    obtain ⟨_, _, -, angled⟩ := Parser.bind_eq_some angled
    obtain ⟨_, _, -, angled⟩ := Parser.bind_eq_some angled
    cases angled
    cases reads
  · cases reads
    exact ⟨rfl, rfl⟩

/-- A segment without arguments is a name that may stand in a path. -/
theorem pathSegment_eq_some
    (reads : pathSegment grammar bound false row = some ((name, .noArguments), after)) :
    row = .word name :: after ∧ continuesPath name = true := by
  have reads := Parser.of_bind_peek reads
  split at reads
  · next isBare =>
      obtain ⟨word, _, isWord, reads⟩ := Parser.bind_eq_some reads
      cases reads
      obtain ⟨text, isText, ahead⟩ := List.any_eq_true.mp isBare
      obtain ⟨rest, rfl⟩ := exists_word_of_atWord ahead
      cases isWord
      rw [continuesPath, List.contains_iff_mem.mpr isText]
      exact ⟨rfl, rfl⟩
  · have reads := Parser.of_bind_peek reads
    split at reads
    · next isSelf =>
        obtain ⟨rest, rfl⟩ := exists_word_of_atWord isSelf
        obtain ⟨found, between, isWord, reads⟩ := Parser.bind_eq_some reads
        cases isWord
        obtain ⟨rfl, rfl⟩ := argumentsBehind_eq_some reads
        exact ⟨rfl, by decide⟩
    · obtain ⟨found, between, isIdentifier, readsBehind⟩ := Parser.bind_eq_some reads
      obtain ⟨rfl, noKeyword⟩ := identifier_eq_some isIdentifier
      obtain ⟨rfl, rfl⟩ := argumentsBehind_eq_some readsBehind
      rw [continuesPath, noKeyword]
      exact ⟨rfl, by simp⟩

/-- Names that are read behind colon pairs are in the row, and may stand in a path. -/
theorem names_of_whileFrom
    {fuel : Nat}
    {names : List String}
    (reads : whileFrom (fun tokens => atMarks "::" tokens && !third atParenthesis tokens)
      (do marks "::"; pathSegment grammar bound false) fuel row
        = some (names.map (·, .noArguments), after)) :
    ∀ name ∈ names, .word name ∈ row ∧ continuesPath name = true := by
  induction fuel generalizing row names with
  | zero => cases reads
  | succ fuel inductionHypothesis =>
      have reads := Parser.of_bind_peek reads
      split at reads
      · obtain ⟨value, between, segment, reads⟩ := Parser.bind_eq_some reads
        obtain ⟨values, _, others, reads⟩ := Parser.bind_eq_some reads
        obtain ⟨_, behind, colons, segment⟩ := Parser.bind_eq_some segment
        cases names with
        | nil => cases reads
        | cons name names =>
            cases reads
            obtain ⟨rfl, continues⟩ := pathSegment_eq_some segment
            obtain ⟨-, same⟩ := Option.ite_none_right_eq_some.mp colons
            have within : ∀ token ∈ Token.word name :: between, token ∈ row := by
              rw [← (Prod.mk.inj (Option.some.inj same)).2]
              exact fun token member => List.mem_of_mem_drop member
            intro other member
            rcases List.mem_cons.mp member with rfl | later
            · exact ⟨within _ List.mem_cons_self, continues⟩
            · obtain ⟨inRow, continues⟩ := inductionHypothesis others other later
              exact ⟨within _ (List.mem_cons_of_mem _ inRow), continues⟩
      · cases names with
        | nil => simp
        | cons => cases reads

/-- The names of a path without arguments that does not begin at the root. -/
theorem names_of_path
    {names : List String}
    (reads : path grammar false row = some (⟨false, names.map (·, .noArguments)⟩, after)) :
    (∀ name ∈ names, .word name ∈ row ∧ continuesPath name = true)
      ∧ ∃ name ∈ names.head?, ∃ rest, row = .word name :: rest := by
  obtain ⟨leading, between, isLeading, reads⟩ := Parser.bind_eq_some reads
  obtain ⟨segments, _, readsSegments, reads⟩ := Parser.bind_eq_some reads
  cases reads
  obtain rfl : between = row := (optionalMarks_eq_some isLeading).2
  obtain ⟨first, behind, readsFirst, readsSegments⟩ := Parser.bind_eq_some readsSegments
  obtain ⟨others, _, readsOthers, readsSegments⟩ := Parser.bind_eq_some readsSegments
  cases names with
  | nil => cases readsSegments
  | cons name names =>
      cases readsSegments
      obtain ⟨isFirst, continues⟩ := pathSegment_eq_some readsFirst
      obtain ⟨_, _, state, readsOthers⟩ := Parser.bind_eq_some readsOthers
      cases state
      have behindFirst := names_of_whileFrom readsOthers
      refine ⟨?_, name, rfl, behind, isFirst⟩
      rw [isFirst]
      intro other member
      rcases List.mem_cons.mp member with rfl | later
      · exact ⟨List.mem_cons_self, continues⟩
      · exact ⟨List.mem_cons_of_mem _ (behindFirst other later).1, (behindFirst other later).2⟩

end Path

/-! ### Simple types -/

namespace Node

/-- Does a segment have no arguments? -/
def isBare : Node .segment → Bool
  | .pathSegment _ arguments => PathParts.isBare arguments

/-- Is the type neither a path of names nor the unit, in whatever parentheses and groups? -/
def isInvolved : {c : Category} → Node c → Bool
  | _, .pathType (.simplePath false segments) => !segments.toList.all isBare
  | _, .tupleType .nil _ => false
  | _, .parenthesizedType type => type.isInvolved
  | _, .groupedType type => type.isInvolved
  | _, _ => true

/-- The type without the parentheses and groups around it. -/
def withoutParentheses : {c : Category} → Node c → Node c
  | _, .parenthesizedType type => type.withoutParentheses
  | _, .groupedType type => type.withoutParentheses
  | _, node => node

/-- A type that a text can name: the unit, or a path of names. -/
def IsSimple (type : Node .type) : Prop :=
  type = .tupleType .nil false ∨ ∃ names, IsTypePath names ∧ type = pathOf names

end Node

section Types

variable
  {grammar : Grammar}
  {outer : Option (Node .binder)}
  {allowPlus : Bool}
  {row after : List Token}
  {type : Node .type}

/-- Is every type that the reader answers with an involved one? -/
abbrev AnswersInvolved (reader : Parser (Node .type)) : Prop :=
  Answers reader fun type => type.isInvolved = true

theorem AnswersInvolved.not_simple
    {reader : Parser (Node .type)}
    (answers : AnswersInvolved reader)
    (reads : reader row = some (type, after)) :
    type.isInvolved ≠ false := by
  rw [answers reads]
  decide

theorem answersInvolved_objectBounds (spelledDyn : Bool) :
    AnswersInvolved (objectBounds grammar spelledDyn allowPlus) :=
  .bind fun _ => .bind fun _ => .pure rfl

theorem answersInvolved_objectBehind (first : Node .bound) :
    AnswersInvolved (objectBehind grammar first) :=
  .bind fun _ => .pure rfl

theorem answersInvolved_functionType : AnswersInvolved (functionType grammar outer) :=
  .bind fun _ => .bind fun _ => .bind fun _ => .bind fun _ => .bind fun _ => .pure rfl

theorem answersInvolved_dynType (start : List Token) :
    AnswersInvolved (dynType grammar start allowPlus) :=
  .bind fun _ => .bind fun _ => by
    intro row value rest reads
    obtain ⟨object, _, isObject, reads⟩ := Parser.bind_eq_some reads
    split at reads
    · obtain ⟨_, _, -, reads⟩ := Parser.bind_eq_some reads
      cases reads
      rfl
    · cases reads
      exact answersInvolved_objectBounds true isObject

theorem answersInvolved_bracketedType : AnswersInvolved (bracketedType grammar) := by
  refine Answers.inside ?_ _
  exact .bind fun _ => .bind fun _ => .ite
    (fun _ => .bind fun _ => .pure rfl) (fun _ => .pure rfl)

theorem answersInvolved_pointerType : AnswersInvolved (pointerType grammar) :=
  .bind fun _ => .bind fun _ => .ite
    (fun _ => .bind fun _ => .bind fun _ => .pure rfl) (fun _ => .bind fun _ => .pure rfl)

theorem answersInvolved_referenceType : AnswersInvolved (referenceType grammar) :=
  .bind fun _ => .bind fun _ => .bind fun _ => .bind fun _ => .pure rfl

theorem answersInvolved_implType : AnswersInvolved (implType grammar allowPlus) :=
  .bind fun _ => .bind fun _ => .bind fun _ => .pure rfl

/-- A list that goes on behind its first element has this one in front. -/
theorem elements_of_commaListBehind
    {α : Type}
    {first : α}
    {element : Parser α}
    {list : Separated α}
    (reads : commaListBehind first element row = some (list, after)) :
    ∃ others, list.elements = first :: others := by
  have reads := Parser.of_bind_peek reads
  split at reads
  · cases reads
    exact ⟨_, rfl⟩
  · obtain ⟨_, _, -, reads⟩ := Parser.bind_eq_some reads
    obtain ⟨_, _, -, reads⟩ := Parser.bind_eq_some reads
    cases reads
    exact ⟨_, rfl⟩

/-- What is read of parentheses and is not involved is the unit, or a type in parentheses. -/
theorem parenthesizedType_eq_some
    (reads : parenthesizedType grammar allowPlus row = some (type, after))
    (simple : type.isInvolved = false) :
    type = .tupleType .nil false
      ∨ ∃ inner content behind, type = .parenthesizedType inner
        ∧ row = .opening .parenthesis :: content
        ∧ grammar.type true content = some (inner, behind) := by
  obtain ⟨start, _, state, reads⟩ := Parser.bind_eq_some reads
  cases state
  dsimp only at reads
  split at reads
  · obtain ⟨_, _, -, reads⟩ := Parser.bind_eq_some reads
    cases reads
    exact .inl rfl
  · split at reads
    · obtain ⟨object, _, isObject, reads⟩ := Parser.bind_eq_some reads
      cases reads
      have answers : AnswersInvolved (inside .parenthesis (objectBounds grammar false true)) :=
        (answersInvolved_objectBounds false).inside _
      exact (answers.not_simple isObject simple).elim
    · split at reads
      · obtain ⟨first, _, -, reads⟩ := Parser.bind_eq_some reads
        split at reads
        · exact absurd simple ((answersInvolved_objectBehind _).not_simple reads)
        · cases reads
      · obtain ⟨⟨list, isTuple⟩, _, readsInside, reads⟩ := Parser.bind_eq_some reads
        obtain ⟨content, _, rfl, readsContent⟩ := Parser.inside_eq_some readsInside
        obtain ⟨inner, rest, readsInner, readsContent⟩ := Parser.bind_eq_some readsContent
        have readsContent := Parser.of_bind_peek readsContent
        split at readsContent
        · obtain ⟨others, _, readsOthers, readsContent⟩ := Parser.bind_eq_some readsContent
          cases readsContent
          cases reads
          obtain ⟨_, isList⟩ := elements_of_commaListBehind readsOthers
          rw [isList] at simple
          cases simple
        · cases readsContent
          refine .inr ⟨inner, content, _, ?_, rfl, readsInner⟩
          have answered : type.isInvolved = true ∨ type = .parenthesizedType inner := by
            refine Answers.elim (fun type => type.isInvolved = true ∨ type = .parenthesizedType inner)
              reads (.bind fun plus => ?_)
            split
            · exact .ite (fun _ _ _ _ reads => .inl (answersInvolved_objectBehind _ reads))
                (fun _ => .pure (.inr rfl))
            · exact .pure (.inr rfl)
          exact answered.resolve_left (by simp [simple])

/-- A path that is read is qualified, or one of segments alone. -/
theorem qualifiablePath_eq_some
    {read : QualifiablePath}
    (reads : qualifiablePath grammar false row = some (read, after)) :
    (∃ owner trait segments, read = .qualified owner trait segments)
      ∨ ∃ parts, read = .simple parts ∧ path grammar false row = some (parts, after) := by
  have reads := Parser.of_bind_peek reads
  split at reads
  · left
    refine Answers.elim (fun read => ∃ owner trait segments, read = .qualified owner trait segments)
      reads (.bind fun _ => .bind fun _ => .bind fun _ => .ite ?_ ?_)
    all_goals
      exact fun _ => .bind fun _ => .bind fun _ => .bind fun _ => .bind fun _ => .bind fun _ =>
        .pure ⟨_, _, _, rfl⟩
  · obtain ⟨parts, _, isPath, reads⟩ := Parser.bind_eq_some reads
    cases reads
    exact .inr ⟨parts, rfl, isPath⟩

/-- What is read of a path and is not involved is that path, without bounds in front. -/
theorem typeFromPath_eq_some
    (reads : typeFromPath grammar outer allowPlus row = some (type, after))
    (simple : type.isInvolved = false) :
    outer = none
      ∧ ∃ parts rest, type = .pathType (PathParts.toNode parts)
        ∧ path grammar false row = some (parts, rest) := by
  obtain ⟨read, between, readsPath, reads⟩ := Parser.bind_eq_some reads
  rcases qualifiablePath_eq_some readsPath with ⟨_, _, _, rfl⟩ | ⟨parts, rfl, isPath⟩
  · cases reads
    cases simple
  · have answered : type.isInvolved = true ∨ outer = none ∧ type = .pathType parts.toNode := by
      refine Answers.elim
        (fun type => type.isInvolved = true ∨ outer = none ∧ type = .pathType parts.toNode)
        reads (.bind fun bang => ?_)
      split
      · exact .bind fun _ => .pure (.inl rfl)
      · refine .bind fun plus => ?_
        refine .ite (fun _ => .ite (fun _ => .bind fun _ => .bind fun _ => .ite ?_ ?_) ?_) ?_
        · exact fun _ => .bind fun _ => .pure (.inl rfl)
        · exact fun _ => .pure (.inl rfl)
        · exact fun _ => .pure (.inl rfl)
        · intro noBound
          simp only [Bool.or_eq_true, not_or, Option.not_isSome_iff_eq_none] at noBound
          exact .pure (.inr ⟨noBound.1, rfl⟩)
    obtain ⟨noBinder, isPathType⟩ := answered.resolve_left (by simp [simple])
    exact ⟨noBinder, parts, between, isPathType, isPath⟩

/-- Behind a binder no parenthesis stands. -/
theorem eq_none_of_atParenthesis
    (isParenthesis : atParenthesis row = true)
    (required : (outer.isNone || atPathName row || atFunctionType row) = true) :
    outer = none := by
  rw [← Option.isNone_iff_eq_none]
  cases row with
  | nil => cases isParenthesis
  | cons first rest =>
      cases first with
      | opening delimiter =>
          have noName : atPathName (.opening delimiter :: rest) = false := rfl
          have noFunction : atFunctionType (.opening delimiter :: rest) = false := rfl
          rwa [noName, noFunction, Bool.or_false, Bool.or_false] at required
      | word | mark | literal | closing => cases isParenthesis

/-- What is read as a type and is not involved is the unit, a type in parentheses, or a path that
the row begins with. -/
theorem readType_eq_some
    (reads : readType grammar allowPlus row = some (type, after))
    (simple : type.isInvolved = false) :
    type = .tupleType .nil false
      ∨ (∃ inner content rest, type = .parenthesizedType inner
        ∧ row = .opening .parenthesis :: content
        ∧ grammar.type true content = some (inner, rest))
      ∨ ∃ parts rest, type = .pathType (PathParts.toNode parts)
        ∧ path grammar false row = some (parts, rest) ∧ atTypePath row = true := by
  obtain ⟨start, _, state, reads⟩ := Parser.bind_eq_some reads
  cases state
  obtain ⟨outer, between, isOuter, reads⟩ := Parser.bind_eq_some reads
  obtain ⟨ahead, _, state, reads⟩ := Parser.bind_eq_some reads
  cases state
  obtain ⟨_, _, required, reads⟩ := Parser.bind_eq_some reads
  obtain ⟨required, same⟩ := Parser.require_eq_some required
  rw [same] at reads
  have isRow : outer = none → between = row := by
    rintro rfl
    exact Parser.optionally_eq_none isOuter
  cases isParenthesis : atParenthesis between with
  | true =>
      rw [isParenthesis, if_pos rfl] at reads
      have noBinder := eq_none_of_atParenthesis isParenthesis required
      rw [isRow noBinder] at reads
      rcases parenthesizedType_eq_some reads simple with isUnit | isInner
      · exact .inl isUnit
      · exact .inr (.inl isInner)
  | false =>
      rw [isParenthesis, if_neg Bool.false_ne_true] at reads
      cases isFunction : atFunctionType between with
      | true =>
          rw [isFunction, if_pos rfl] at reads
          exact absurd simple (answersInvolved_functionType.not_simple reads)
      | false =>
      rw [isFunction, if_neg Bool.false_ne_true] at reads
      cases isBuiltin : atBuiltin between with
      | true =>
          rw [isBuiltin, if_pos rfl] at reads
          refine absurd simple (AnswersInvolved.not_simple ?_ reads)
          exact .bind fun _ => .bind fun _ => .pure rfl
      | false =>
      rw [isBuiltin, if_neg Bool.false_ne_true] at reads
      cases isPath : atTypePath between with
      | true =>
          rw [isPath, if_pos rfl] at reads
          obtain ⟨noBinder, parts, rest, isType, readsPath⟩ := typeFromPath_eq_some reads simple
          rw [isRow noBinder] at readsPath isPath
          exact .inr (.inr ⟨parts, rest, isType, readsPath, isPath⟩)
      | false =>
          rw [isPath, if_neg Bool.false_ne_true] at reads
          -- The readers that are left answer with involved types only.
          refine absurd simple (AnswersInvolved.not_simple ?_ reads)
          exact .ite (fun _ => answersInvolved_dynType row)
            fun _ => .ite (fun _ => answersInvolved_bracketedType)
            fun _ => .ite (fun _ => answersInvolved_pointerType)
            fun _ => .ite (fun _ => answersInvolved_referenceType)
            fun _ => .ite (fun _ => .bind fun _ => .pure rfl)
            fun _ => .ite (fun _ => answersInvolved_implType)
            fun _ => .ite (fun _ => .bind fun _ => .pure rfl)
            fun _ => .ite (fun _ => answersInvolved_objectBounds false)
            fun _ => by rintro _ _ _ ⟨⟩

/-- The segments of a path none of which has arguments. -/
theorem segments_of_bare
    {segments : List (String × Node .segmentArguments)}
    (bare : (segmentNodes segments).toList.all Node.isBare = true) :
    segments = (segments.map Prod.fst).map (·, .noArguments) := by
  rw [segmentNodes, Node.toList_ofList, List.all_map, List.all_eq_true] at bare
  rw [List.map_map]
  calc segments = segments.map id := (List.map_id _).symm
    _ = segments.map ((·, .noArguments) ∘ Prod.fst) := by
      refine List.map_congr_left fun segment member => ?_
      obtain ⟨name, arguments⟩ := segment
      have noArguments : PathParts.isBare arguments = true := bare _ member
      cases arguments with
      | noArguments => rfl
      | angleArguments | callArguments => cases noArguments

/-- Every type that is read from a row of words, and that is not involved, is the unit or a path of
names, in whatever parentheses. -/
theorem isSimple_of_toDepth
    {depth : Nat}
    (words : ∀ name, .word name ∈ row → Scan.isWord name = true)
    (reads : (Grammar.toDepth depth).type allowPlus row = some (type, after))
    (simple : type.isInvolved = false) :
    type.withoutParentheses.IsSimple := by
  -- The depth is that of the readers, as a type in parentheses is read by those one level below.
  induction depth generalizing allowPlus row after type with
  | zero => cases reads
  | succ depth inductionHypothesis =>
      rcases readType_eq_some reads simple with
        rfl | ⟨inner, content, rest, rfl, rfl, readsInner⟩ | ⟨parts, rest, rfl, readsPath, begins⟩
      · exact .inl rfl
      · have inside_ := inductionHypothesis
          (fun name member => words name (List.mem_cons_of_mem _ member)) readsInner simple
        exact inside_
      · obtain ⟨leading, segments⟩ := parts
        cases leading with
        | true => cases simple
        | false =>
            have bare : (segmentNodes segments).toList.all Node.isBare = true := by
              simpa [PathParts.toNode, Node.isInvolved] using simple
            generalize isNames : segments.map Prod.fst = names
            have isBare := segments_of_bare bare
            rw [isNames] at isBare
            rw [isBare] at readsPath ⊢
            obtain ⟨inRow, first, isFirst, behind, isRow⟩ := names_of_path readsPath
            refine .inr ⟨names, ⟨?_, ?_, ?_, ?_⟩, toNode_map names⟩
            · exact fun name member => words name (inRow name member).1
            · intro name isName
              obtain rfl := Option.mem_unique isFirst isName
              have noMarks : atMarks "::" (.word first :: behind) = false
                  ∧ atMarks "<" (.word first :: behind) = false := ⟨rfl, rfl⟩
              rwa [isRow, atTypePath, noMarks.1, noMarks.2, Bool.or_false, Bool.or_false, atPathName,
                any_atWord] at begins
            · rintro rfl
              cases isFirst
            · exact fun name member => (inRow name member).2

/-- What a text spells as a type, if it is not involved, is the unit or a path of names, in whatever
parentheses. -/
theorem isSimple_of_readTypeText
    {text : String}
    (reads : readTypeText text = some type)
    (simple : type.isInvolved = false) :
    type.withoutParentheses.IsSimple := by
  obtain ⟨row, scanned, reads⟩ := Option.bind_eq_some_iff.mp reads
  rw [readAll] at reads
  split at reads
  · next value isType =>
      cases reads
      have isType : (Grammar.toDepth (4 * row.length + 16 + 1)).type true row = some (type, []) :=
        isType
      exact isSimple_of_toDepth (Scan.isWord_of_mem_tokens? scanned) isType simple
  · cases reads

end Types

end Scaffold.Source
