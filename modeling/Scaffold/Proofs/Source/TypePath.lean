import Scaffold.Proofs.Source.Imports

/-!
Contract: types that are paths of names.

Owns:
- the rows of tokens that are names with colon pairs between them, and their text;
- that such a row is read as the type it names, and rows with commas between them as a tuple.

Does not own: references to types.
-/

namespace Scaffold.Source

open Source.Parser Source.Grammar Token

/-! ### Names of a path -/

/-- May a type begin with the name? -/
def beginsPath (name : String) : Bool :=
  !keywords.contains name || pathWords.contains name

/-- May the name stand behind a colon pair in a type? -/
def continuesPath (name : String) : Bool :=
  bareSegmentWords.contains name || name == "Self" || !keywords.contains name

theorem continuesPath_of_beginsPath {name : String} (begins : beginsPath name = true) :
    continuesPath name = true := by
  simp only [beginsPath, Bool.or_eq_true, List.contains_iff_mem] at begins
  rcases begins with identifier | pathWord
  · simp only [continuesPath, identifier, Bool.or_true]
  · have words : ∀ word ∈ pathWords, continuesPath word = true := by decide
    exact words name pathWord

/-- The tokens behind the first name of a path: a colon pair and a name, again and again. -/
inductive PathTail : List String → List Token → Prop
  | nil : PathTail [] []
  | cons
      {name : String}
      {names : List String}
      {row : List Token}
      (spacing : Spacing)
      (rest : PathTail names row) :
      PathTail (name :: names) (.mark ':' .joint :: .mark ':' spacing :: .word name :: row)

/-- Does a type that is a path end in front of the row? -/
def endsType : List Token → Bool
  | [] => true
  | .closing _ :: _ => true
  | .mark ',' _ :: _ => true
  | _ => false

/-- Is there something in front that would be more of a path? -/
def goesOn (row : List Token) : Bool :=
  atMarks "::" row || atMarks "<" row || atMarks "!" row || atMarks "+" row

theorem goesOn_of_endsType {row : List Token} (ends : endsType row = true) : goesOn row = false := by
  unfold endsType at ends
  split at ends <;> first | rfl | contradiction

/-! ### Reading a path -/

section Reading

variable
  {grammar : Grammar}
  {bound : Parser (Node .bound)}
  {name : String}
  {names : List String}
  {row after : List Token}

/-- Are generic arguments in front? -/
def atAngled (row : List Token) : Bool :=
  (!false && atMarks "<" row && !atMarks "<=" row && !atMarks "<<=" row)
    || (atMarks "::" row && third (atMarks "<") row)

theorem atAngled_of_pathTail
    (tail : PathTail names row)
    (ends : endsType after = true) :
    atAngled (row ++ after) = false := by
  cases tail with
  | nil =>
      have stops := goesOn_of_endsType ends
      simp only [goesOn, Bool.or_eq_false_iff] at stops
      rw [List.nil_append, atAngled, stops.1.1.1, stops.1.1.2]
      rfl
  | cons => rfl

theorem get_eq (row : List Token) : (get : Parser (List Token)) row = some (row, row) := rfl

theorem require_true : require true row = some ((), row) := rfl

theorem any_atWord (words : List String) (name : String) (row : List Token) :
    (words.any fun text => atWord text (.word name :: row)) = words.contains name :=
  List.contains_eq_any_beq.symm

theorem identifier_of_not_keyword
    (noKeyword : keywords.contains name = false) :
    identifier (.word name :: after) = some (name, after) := by
  have isAhead : peek atIdentifier (.word name :: after) = some (true, .word name :: after) := by
    rw [peek_eq, atIdentifier, noKeyword]
    rfl
  rw [identifier, bind_of_eq_some isAhead]
  rfl

theorem pathSegment_word
    (continues : continuesPath name = true)
    (noArguments : atAngled after = false) :
    pathSegment grammar bound false (.word name :: after) = some ((name, .noArguments), after) := by
  have isBare := any_atWord bareSegmentWords name after
  have rest : (peek atAngled >>= fun angled => if angled = true then do
        return (name, ← angleArguments grammar bound)
      else return (name, .noArguments) : Parser (String × Node .segmentArguments)) after
      = some ((name, .noArguments), after) := by
    rw [bind_of_eq_some (peek_eq atAngled after), noArguments]
    rfl
  rw [pathSegment, bind_of_eq_some (peek_eq _ _), isBare]
  cases bare : bareSegmentWords.contains name with
  | true => rfl
  | false =>
      rw [if_neg Bool.false_ne_true, bind_of_eq_some (peek_eq _ _), atWord]
      cases isSelf : name == "Self" with
      | true => exact rest
      | false =>
          have noKeyword : keywords.contains name = false := by
            rwa [continuesPath, bare, isSelf, Bool.false_or, Bool.false_or, Bool.not_eq_true'] at continues
          rw [if_neg Bool.false_ne_true]
          exact (bind_of_eq_some (identifier_of_not_keyword noKeyword) _).trans rest

/-- Names behind colon pairs are read as segments without arguments. -/
theorem whileFrom_pathTail
    {fuel : Nat}
    (tail : PathTail names row)
    (continue_ : ∀ name ∈ names, continuesPath name = true)
    (ends : endsType after = true)
    (enough : names.length < fuel) :
    whileFrom (fun tokens => atMarks "::" tokens && !third atParenthesis tokens)
        (do marks "::"; pathSegment grammar bound false) fuel (row ++ after)
      = some (names.map (·, .noArguments), after) := by
  induction tail generalizing fuel with
  | nil =>
      obtain ⟨fuel, rfl⟩ := Nat.exists_eq_succ_of_ne_zero (Nat.ne_of_gt enough)
      have stops := goesOn_of_endsType ends
      simp only [goesOn, Bool.or_eq_false_iff] at stops
      rw [List.nil_append, whileFrom, bind_of_eq_some (peek_eq _ _), stops.1.1.1]
      rfl
  | @cons name names row spacing rest inductionHypothesis =>
      obtain ⟨fuel, rfl⟩ := Nat.exists_eq_succ_of_ne_zero (Nat.ne_of_gt (Nat.zero_lt_of_lt enough))
      have here : pathSegment grammar bound false (.word name :: (row ++ after))
          = some ((name, .noArguments), row ++ after) :=
        pathSegment_word (continue_ name List.mem_cons_self) (atAngled_of_pathTail rest ends)
      have behind := inductionHypothesis (fun other member => continue_ other (List.mem_cons_of_mem _ member))
        (Nat.lt_of_succ_lt_succ enough)
      have element : (do marks "::"; pathSegment grammar bound false : Parser _)
          (.mark ':' .joint :: .mark ':' spacing :: .word name :: row ++ after)
          = some ((name, .noArguments), row ++ after) :=
        here
      rw [whileFrom, bind_of_eq_some (peek_eq _ _)]
      exact (bind_of_eq_some element _).trans ((bind_of_eq_some behind _).trans rfl)

theorem length_le_of_pathTail (tail : PathTail names row) : names.length ≤ row.length := by
  induction tail with
  | nil => exact Nat.le_refl _
  | cons _ _ inductionHypothesis =>
      simp only [List.length_cons]
      omega

/-- A path of names is read as the path of its segments. -/
theorem path_of_pathTail
    (tail : PathTail names row)
    (begins : beginsPath name = true)
    (continue_ : ∀ name ∈ names, continuesPath name = true)
    (ends : endsType after = true) :
    path grammar false (.word name :: (row ++ after))
      = some (⟨false, (name :: names).map (·, .noArguments)⟩, after) := by
  have first : pathSegment grammar (bound grammar .declared) false (.word name :: (row ++ after))
      = some ((name, .noArguments), row ++ after) :=
    pathSegment_word (continuesPath_of_beginsPath begins) (atAngled_of_pathTail tail ends)
  have enough : names.length < (row ++ after).length + 1 := by
    have length := length_le_of_pathTail tail
    rw [List.length_append]
    omega
  have others : whileFrom (fun tokens => atMarks "::" tokens && !third atParenthesis tokens)
      (do marks "::"; pathSegment grammar (bound grammar .declared) false)
      ((row ++ after).length + 1) (row ++ after) = some (names.map (·, .noArguments), after) :=
    whileFrom_pathTail tail continue_ ends enough
  have loop : repeatWhile (fun tokens => atMarks "::" tokens && !third atParenthesis tokens)
      (do marks "::"; pathSegment grammar (bound grammar .declared) false) (row ++ after)
      = some (names.map (·, .noArguments), after) := others
  have segments : pathSegments grammar (bound grammar .declared) false (.word name :: (row ++ after))
      = some ((name :: names).map (·, .noArguments), after) :=
    (bind_of_eq_some first _).trans ((bind_of_eq_some loop _).trans rfl)
  have noColons : optionalMarks "::" (.word name :: (row ++ after))
      = some (false, .word name :: (row ++ after)) := rfl
  exact (bind_of_eq_some noColons _).trans ((bind_of_eq_some segments _).trans rfl)

/-- The type that names a path. -/
def pathOf (names : List String) : Node .type :=
  .pathType (.simplePath false (.ofList (names.map fun name => .pathSegment name .noArguments)))

theorem not_atWord_of_beginsPath
    {keyword : String}
    (begins : beginsPath name = true)
    (other : beginsPath keyword = false) :
    atWord keyword (.word name :: row) = false := by
  refine beq_false_of_ne ?_
  rintro rfl
  rw [begins] at other
  cases other

theorem atPathName_of_beginsPath (begins : beginsPath name = true) :
    atPathName (.word name :: row) = true := by
  rw [atPathName, any_atWord]
  exact begins

theorem noHash_of_pathTail
    (tail : PathTail names row)
    (ends : endsType after = true) :
    atMarks "#" (row ++ after) = false := by
  cases tail with
  | cons => rfl
  | nil =>
      unfold endsType at ends
      split at ends <;> first | rfl | contradiction

theorem plain?_map (name : String) (names : List String) :
    PathParts.plain? ⟨false, (name :: names).map (·, .noArguments)⟩ = some ⟨false, name :: names⟩ := by
  have bare : ((name :: names).map (·, Node.noArguments)).all (fun segment => PathParts.isBare segment.2)
      = true := by
    simp [PathParts.isBare]
  rw [PathParts.plain?, if_pos bare]
  simp [Function.comp_def]

theorem toNode_map (names : List String) :
    Node.pathType (PathParts.toNode ⟨false, names.map (·, .noArguments)⟩) = pathOf names := by
  simp [PathParts.toNode, segmentNodes, pathOf, Function.comp_def]

/-- A path of names is read as the type of that path. -/
theorem readType_of_pathTail
    (tail : PathTail names row)
    (begins : beginsPath name = true)
    (continue_ : ∀ name ∈ names, continuesPath name = true)
    (ends : endsType after = true)
    (allowPlus : Bool) :
    readType grammar allowPlus (.word name :: (row ++ after)) = some (pathOf (name :: names), after) := by
  have noBinder : optionally (atWord "for") (binder grammar) (.word name :: (row ++ after))
      = some (none, .word name :: (row ++ after)) := by
    rw [optionally, bind_of_eq_some (peek_eq _ _), not_atWord_of_beginsPath begins (by decide)]
    rfl
  have noFunction : atFunctionType (.word name :: (row ++ after)) = false := by
    rw [atFunctionType, not_atWord_of_beginsPath begins (by decide),
      not_atWord_of_beginsPath begins (by decide), not_atWord_of_beginsPath begins (by decide)]
    rfl
  have stops := goesOn_of_endsType ends
  simp only [goesOn, Bool.or_eq_false_iff] at stops
  have noBuiltin : atBuiltin (.word name :: (row ++ after)) = false := by
    rw [atBuiltin, Bool.and_eq_false_iff]
    exact .inr (noHash_of_pathTail tail ends)
  have isPath : atTypePath (.word name :: (row ++ after)) = true := by
    rw [atTypePath, atPathName_of_beginsPath begins]
    rfl
  have noBang : atBang after = false := by
    rw [atBang, stops.1.2]
    rfl
  have parts : qualifiablePath grammar false (.word name :: (row ++ after))
      = some (.simple ⟨false, (name :: names).map (·, .noArguments)⟩, after) := by
    rw [qualifiablePath, bind_of_eq_some (peek_eq _ _)]
    exact (bind_of_eq_some (path_of_pathTail tail begins continue_ ends) _).trans rfl
  have fromPath : typeFromPath grammar none allowPlus (.word name :: (row ++ after))
      = some (pathOf (name :: names), after) := by
    rw [typeFromPath, bind_of_eq_some parts]
    refine (bind_of_eq_some (peek_eq atBang after) _).trans ?_
    rw [plain?_map, noBang]
    refine (bind_of_eq_some (peek_eq _ after) _).trans ?_
    rw [stops.2, Bool.and_false, toNode_map]
    rfl
  rw [readType, bind_of_eq_some (get_eq _), bind_of_eq_some noBinder, bind_of_eq_some (get_eq _),
    Option.isNone_none, Bool.true_or, Bool.true_or]
  refine (bind_of_eq_some require_true _).trans ?_
  rw [noFunction, noBuiltin, isPath]
  exact fromPath

/-- The parentheses without content are read as the unit. -/
theorem readType_unit (allowPlus : Bool) :
    readType grammar allowPlus (.opening .parenthesis :: .closing .parenthesis :: after)
      = some (.tupleType .nil false, after) := rfl

end Reading

/-! ### Reading a tuple -/

/-- Wherever a type may end behind it, the row is read as the type, and it begins with a word or a
parenthesis. -/
structure IsTypeRow (grammar : Grammar) (row : List Token) (type : Node .type) : Prop where
  begins : (∃ name rest, row = .word name :: rest) ∨ ∃ rest, row = .opening .parenthesis :: rest
  reads : ∀ after allowPlus, endsType after = true →
    grammar.type allowPlus (row ++ after) = some (type, after)

theorem IsTypeRow.not_atEnd
    {grammar : Grammar}
    {row : List Token}
    {type : Node .type}
    (isRow : IsTypeRow grammar row type)
    (after : List Token) :
    atEnd (row ++ after) = false := by
  rcases isRow.begins with ⟨_, _, rfl⟩ | ⟨_, rfl⟩ <;> rfl

/-- The tokens behind the first row of a list: a comma and a row, again and again. -/
inductive CommaTail (grammar : Grammar) : List (Node .type) → List Token → Prop
  | nil : CommaTail grammar [] []
  | cons
      {type : Node .type}
      {types : List (Node .type)}
      {row behind : List Token}
      (spacing : Spacing)
      (isRow : IsTypeRow grammar row type)
      (rest : CommaTail grammar types behind) :
      CommaTail grammar (type :: types) (.mark ',' spacing :: (row ++ behind))

section Tuple

variable
  {grammar : Grammar}
  {type : Node .type}
  {types : List (Node .type)}
  {row behind after : List Token}
  {delimiter : Delimiter}

theorem CommaTail.endsType
    (tail : CommaTail grammar types behind) :
    endsType (behind ++ .closing delimiter :: after) = true := by
  cases tail <;> rfl

theorem CommaTail.length_le (tail : CommaTail grammar types behind) :
    types.length ≤ behind.length := by
  induction tail with
  | nil => exact Nat.le_refl _
  | cons _ _ _ inductionHypothesis =>
      simp only [List.length_cons, List.length_append]
      omega

/-- Rows with commas between them are read as their types. -/
theorem separatedFrom_commaTail
    {fuel : Nat}
    (isRow : IsTypeRow grammar row type)
    (tail : CommaTail grammar types behind)
    (enough : types.length + 1 < fuel) :
    separatedFrom atEnd atEnd "," (grammar.type true) fuel
        (row ++ (behind ++ .closing delimiter :: after))
      = some (⟨type :: types, false⟩, .closing delimiter :: after) := by
  induction tail generalizing fuel row type with
  | nil =>
      obtain ⟨fuel, rfl⟩ := Nat.exists_eq_succ_of_ne_zero (Nat.ne_of_gt (Nat.zero_lt_of_lt enough))
      rw [separatedFrom, bind_of_eq_some (peek_eq _ _), isRow.not_atEnd]
      exact (bind_of_eq_some (isRow.reads _ true rfl) _).trans rfl
  | @cons next types nextRow behind spacing isNext rest inductionHypothesis =>
      obtain ⟨fuel, rfl⟩ := Nat.exists_eq_succ_of_ne_zero (Nat.ne_of_gt (Nat.zero_lt_of_lt enough))
      have others := inductionHypothesis isNext (Nat.lt_of_succ_lt_succ enough)
      have ends : endsType (.mark ',' spacing :: (nextRow ++ behind) ++ .closing delimiter :: after) = true :=
        rfl
      have comma : marks "," (.mark ',' spacing :: (nextRow ++ behind) ++ .closing delimiter :: after)
          = some ((), nextRow ++ (behind ++ .closing delimiter :: after)) := by
        rw [← List.append_assoc]
        rfl
      rw [separatedFrom, bind_of_eq_some (peek_eq _ _), isRow.not_atEnd]
      refine (bind_of_eq_some (isRow.reads _ true ends) _).trans ?_
      refine (bind_of_eq_some (peek_eq _ _) _).trans ?_
      refine (bind_of_eq_some comma _).trans ?_
      exact (bind_of_eq_some others _).trans rfl

/-- Rows behind commas are read as the rest of a list that begins with a type. -/
theorem commaListBehind_commaTail
    (tail : CommaTail grammar types behind)
    (several : types ≠ []) :
    commaListBehind type (grammar.type true) (behind ++ .closing delimiter :: after)
      = some (⟨type :: types, false⟩, .closing delimiter :: after) := by
  cases tail with
  | nil => exact absurd rfl several
  | @cons next others nextRow behind spacing isNext rest =>
      have enough : others.length + 1
          < (nextRow ++ (behind ++ .closing delimiter :: after)).length + 1 := by
        have length := rest.length_le
        simp only [List.length_append, List.length_cons]
        omega
      have list : commaList (grammar.type true) (nextRow ++ (behind ++ .closing delimiter :: after))
          = some (⟨next :: others, false⟩, .closing delimiter :: after) :=
        separatedFrom_commaTail isNext rest enough
      have comma : marks "," (.mark ',' spacing :: (nextRow ++ behind) ++ .closing delimiter :: after)
          = some ((), nextRow ++ (behind ++ .closing delimiter :: after)) := by
        rw [← List.append_assoc]
        rfl
      rw [commaListBehind, bind_of_eq_some (peek_eq _ _)]
      refine (bind_of_eq_some comma _).trans ?_
      exact (bind_of_eq_some list _).trans rfl

theorem inside_of_eq_some
    {α : Type}
    {content : Parser α}
    {value : α}
    {closing : Delimiter}
    (reads : content row = some (value, .closing closing :: after)) :
    inside delimiter content (.opening delimiter :: row) = some (value, after) := by
  rw [inside, if_pos rfl, reads]

/-- Two or more rows in parentheses are read as the tuple of their types. -/
theorem readType_tuple
    (isRow : IsTypeRow grammar row type)
    (tail : CommaTail grammar types behind)
    (several : types ≠ [])
    (allowPlus : Bool) :
    readType grammar allowPlus
        (.opening .parenthesis :: (row ++ (behind ++ .closing .parenthesis :: after)))
      = some (.tupleType (.ofList (type :: types)) false, after) := by
  have tests : atLifetime (row ++ (behind ++ .closing .parenthesis :: after)) = false
      ∧ atMarks "?" (row ++ (behind ++ .closing .parenthesis :: after)) = false := by
    rcases isRow.begins with ⟨_, _, rfl⟩ | ⟨_, rfl⟩ <;> exact ⟨rfl, rfl⟩
  have first := isRow.reads (behind ++ .closing .parenthesis :: after) true tail.endsType
  have content : (do
        let first ← grammar.type true
        let isTuple ← peek (atMarks ",")
        if isTuple then
          return (← commaListBehind first (grammar.type true), true)
        else
          return (⟨[first], false⟩, false) : Parser (Separated (Node .type) × Bool))
        (row ++ (behind ++ .closing .parenthesis :: after))
      = some ((⟨type :: types, false⟩, true), .closing .parenthesis :: after) := by
    have isTuple : peek (atMarks ",") (behind ++ .closing .parenthesis :: after)
        = some (true, behind ++ .closing .parenthesis :: after) := by
      cases tail with
      | nil => exact absurd rfl several
      | cons => rfl
    refine (bind_of_eq_some first _).trans ?_
    refine (bind_of_eq_some isTuple _).trans ?_
    exact (bind_of_eq_some (commaListBehind_commaTail tail several) _).trans rfl
  show parenthesizedType grammar allowPlus _ = _
  rw [parenthesizedType, bind_of_eq_some (get_eq _), List.drop_one, List.tail_cons,
    isRow.not_atEnd, tests.1, tests.2]
  exact (bind_of_eq_some (inside_of_eq_some content) _).trans rfl

end Tuple

end Scaffold.Source
