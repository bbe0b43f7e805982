import Scaffold.Proofs.Source.Depth.Table
import Scaffold.Proofs.Source.Surface

/-!
Contract: the items of a file against the entries of its row.

Owns:
- what an item declares, and the functions of an implementation;
- the rows that readers take, and what is known of them;
- that items declare no more than entries do, in the same order;
- that an implementation has its functions from the block of an entry.

Does not own: which entries a text has.
-/

namespace Scaffold.Source

open Source.Parser Source.Grammar Token

/-! ### Items -/

/-- The function that a signature declares. -/
def Node.signed : Node .signature → Declared
  | .functionSignature _ name _ _ _ _ => ⟨"fn", name⟩

/-- The structure, the function or the constant that an item declares. -/
def Node.declared? : Node .item → Option Declared
  | .structItem _ _ name _ _ => some ⟨"struct", name⟩
  | .functionItem _ _ _ signature _ => some signature.signed
  | .constItem _ _ _ name _ _ => some ⟨"const", name⟩
  | _ => none

/-- The name of the function that an item declares. -/
def Node.function? (item : Node .item) : Option String :=
  item.declared?.bind Declared.function?

/-- The functions of an implementation. -/
def Node.functions : Node .item → List String
  | .implItem _ _ _ _ _ _ _ _ items => items.toList.filterMap Node.function?
  | _ => []

/-! ### Rows that are taken -/

namespace Parser

variable
  {α β : Type}
  {reader : Parser α}
  {next : α → Parser β}
  {holds : α → List Token → Prop}
  {result : β → List Token → Prop}

/-- What is known of every value that the reader answers with and of the row that it takes. -/
def Takes (reader : Parser α) (holds : α → List Token → Prop) : Prop :=
  ∀ ⦃row value rest⦄, reader row = some (value, rest) → ∃ taken, row = taken ++ rest ∧ holds value taken

namespace Takes

theorem mono
    {more : α → List Token → Prop}
    (takes : Takes reader holds)
    (follows : ∀ value taken, holds value taken → more value taken) :
    Takes reader more := by
  intro row value rest reads
  obtain ⟨taken, same, known⟩ := takes reads
  exact ⟨taken, same, follows value taken known⟩

theorem bind
    {front : α → List Token → Prop}
    {Q : α → β → List Token → Prop}
    (first : Takes reader front)
    (behind : ∀ value, Takes (next value) (Q value))
    (follows : ∀ value answer taken takenBehind, front value taken → Q value answer takenBehind →
      result answer (taken ++ takenBehind)) :
    Takes (reader >>= next) result := by
  intro row answer rest reads
  obtain ⟨value, between, reads, readsBehind⟩ := bind_eq_some reads
  obtain ⟨taken, rfl, known⟩ := first reads
  obtain ⟨takenBehind, rfl, knownBehind⟩ := behind value readsBehind
  exact ⟨taken ++ takenBehind, (List.append_assoc ..).symm, follows _ _ _ _ known knownBehind⟩

theorem ite
    {condition : Prop}
    [Decidable condition]
    {other : Parser α}
    (ifTrue : Takes reader holds)
    (ifFalse : Takes other holds) :
    Takes (if condition then reader else other) holds := by
  split
  · exact ifTrue
  · exact ifFalse

theorem refuse : Takes (refuse : Parser α) holds := by
  rintro _ _ _ ⟨⟩

theorem whole [extends_ : Extends reader reader] : Takes reader fun _ taken => IsWhole taken :=
  fun _ _ _ reads => (extends_.answers reads).2

theorem ends [ends : Ends reader reader] : Takes reader fun _ taken => EndsEntry taken :=
  fun _ _ _ reads => (ends.answers reads).2

theorem of_answers
    [Extends reader reader]
    {P : α → Prop}
    (answers : Answers reader P) :
    Takes reader fun value taken => P value ∧ IsWhole taken := by
  intro row value rest reads
  obtain ⟨taken, same, isWhole⟩ := whole reads
  exact ⟨taken, same, answers reads, isWhole⟩

theorem answers
    [Extends reader reader]
    {P : α → Prop}
    (answers : Answers reader P) :
    Takes reader fun value _ => P value :=
  (of_answers answers).mono fun _ _ => And.left

/-- What is known of one row, in two ways. -/
theorem and
    {more : α → List Token → Prop}
    (first : Takes reader holds)
    (second : Takes reader more) :
    Takes reader fun value taken => holds value taken ∧ more value taken := by
  intro row value rest reads
  obtain ⟨taken, same, known⟩ := first reads
  obtain ⟨other, sameOther, knownOther⟩ := second reads
  rw [List.append_cancel_right (sameOther.symm.trans same)] at knownOther
  exact ⟨taken, same, known, knownOther⟩

theorem word (text : String) : Takes (word text) fun _ taken => taken = [.word text] := by
  intro row value rest reads
  unfold Parser.word at reads
  split at reads
  · obtain ⟨rfl, same⟩ := Option.ite_none_right_eq_some.mp reads
    cases same
    exact ⟨_, rfl, rfl⟩
  · contradiction

theorem identifier : Takes identifier fun name taken => taken = [.word name] := by
  intro row name rest reads
  exact ⟨[.word name], (identifier_eq_some reads).1, rfl⟩

theorem optionalWord (text : String) :
    Takes (optionalWord text) fun found taken => taken = if found then [.word text] else [] := by
  intro row found rest reads
  have reads := of_bind_peek reads
  split at reads
  · obtain ⟨_, between, isWord, same⟩ := bind_eq_some reads
    cases same
    exact Takes.word text isWord
  · cases reads
    exact ⟨[], rfl, rfl⟩

theorem repeatToEnd (each : Takes reader holds) :
    Takes (repeatToEnd reader) fun values taken =>
      ∃ cuts, taken = cuts.flatten ∧ List.Forall₂ holds values cuts := by
  have loop (test : Test) (fuel : Nat) :
      Takes (whileFrom test reader fuel) fun values taken =>
        ∃ cuts, taken = cuts.flatten ∧ List.Forall₂ holds values cuts := by
    induction fuel with
    | zero => exact .refuse
    | succ fuel inductionHypothesis =>
        intro row values rest reads
        have reads := of_bind_peek reads
        split at reads
        · obtain ⟨value, between, first, reads⟩ := bind_eq_some reads
          obtain ⟨others, _, behind, same⟩ := bind_eq_some reads
          cases same
          obtain ⟨taken, rfl, known⟩ := each first
          obtain ⟨_, rfl, cuts, rfl, knownBehind⟩ := inductionHypothesis behind
          exact ⟨taken ++ cuts.flatten, (List.append_assoc ..).symm, taken :: cuts, rfl,
            .cons known knownBehind⟩
        · cases reads
          exact ⟨[], rfl, [], rfl, .nil⟩
  intro row values rest reads
  exact loop _ _ reads

end Takes

end Parser

/-! ### Fronts that are read -/

/-- The reader takes rows that may stand in front of a declaration. -/
class Parser.Fronts {α : Type} (reader : Parser α) : Prop where
  takes : Takes reader fun _ taken => IsFront taken

namespace Parser

section Fronts

variable
  {α β : Type}
  {reader other : Parser α}
  {next : α → Parser β}

instance fronts_pure (value : α) : Fronts (pure value : Parser α) :=
  ⟨fun _ _ _ reads => by
    cases reads
    exact ⟨[], rfl, .nil⟩⟩

instance fronts_get : Fronts (get : Parser (List Token)) :=
  ⟨fun _ _ _ reads => by
    cases reads
    exact ⟨[], rfl, .nil⟩⟩

instance fronts_peek (test : Test) : Fronts (peek test) :=
  ⟨fun _ _ _ reads => by
    cases reads
    exact ⟨[], rfl, .nil⟩⟩

instance fronts_bind [first : Fronts reader] [behind : ∀ value, Fronts (next value)] :
    Fronts (reader >>= next) :=
  ⟨first.takes.bind (fun value => (behind value).takes) fun _ _ _ _ => .append⟩

instance fronts_ite
    {condition : Prop}
    [Decidable condition]
    [ifTrue : Fronts reader]
    [ifFalse : Fronts other] :
    Fronts (if condition then reader else other) :=
  ⟨ifTrue.takes.ite ifFalse.takes⟩

theorem fronts_mark
    {operator : String}
    {char : Char}
    (spelled : operator.toList = [char])
    (isQuiet : char = '#' ∨ char = '!') :
    Fronts (marks operator) := by
  constructor
  intro row value rest reads
  obtain ⟨ahead, same⟩ := Option.ite_none_right_eq_some.mp reads
  cases same
  rw [atMarks, spelled] at ahead
  rw [← String.length_toList, spelled]
  cases row with
  | nil => contradiction
  | cons first rest =>
      cases first with
      | mark found spacing =>
          obtain rfl : found = char := beq_iff_eq.mp ahead
          exact ⟨[_], rfl, .mark isQuiet spacing⟩
      | word | literal | opening | closing => contradiction

instance fronts_hash : Fronts (marks "#") :=
  fronts_mark (by decide) (.inl rfl)

instance fronts_bang : Fronts (marks "!") :=
  fronts_mark (by decide) (.inr rfl)

theorem fronts_optionalWord {text : String} (isModifier : text ∈ modifierWords) :
    Fronts (optionalWord text) := by
  refine ⟨(Takes.optionalWord text).mono ?_⟩
  rintro found _ rfl
  cases found with
  | false => exact .nil
  | true => exact .modifier isModifier

theorem fronts_inside
    {delimiter : Delimiter}
    (noBrace : delimiter ≠ .brace)
    [extends_ : Extends reader reader] :
    Fronts (inside delimiter reader) := by
  constructor
  intro row value rest reads
  obtain ⟨_, closing, rfl, found⟩ := inside_eq_some reads
  obtain ⟨-, taken, rfl, whole⟩ := extends_.answers found
  exact ⟨.opening delimiter :: (taken ++ [.closing closing]), by simp, .group noBrace whole closing⟩

instance fronts_inBrackets [Extends reader reader] : Fronts (inside .bracket reader) :=
  fronts_inside (by decide)

instance fronts_whileFrom [Fronts reader] (test : Test) (fuel : Nat) :
    Fronts (whileFrom test reader fuel) := by
  induction fuel with
  | zero => exact ⟨.refuse⟩
  | succ =>
      unfold whileFrom
      infer_instance

instance fronts_repeatWhile [Fronts reader] (test : Test) : Fronts (repeatWhile test reader) :=
  ⟨fun row _ _ reads => (fronts_whileFrom test (row.length + 1)).takes reads⟩

end Fronts

end Parser

namespace Grammar

instance fronts_restriction : Fronts restriction := by
  constructor
  intro row value rest reads
  let path : Parser PlainPath := inside .parenthesis (do word "in"; plainPath)
  have front : Fronts path := fronts_inside (by decide)
  have nothing {row : List Token} : ∃ taken, row = taken ++ row ∧ IsFront taken := ⟨[], rfl, .nil⟩
  obtain ⟨ahead, _, got, reads⟩ := bind_eq_some reads
  cases got
  split at reads
  · split at reads
    · split at reads
      · cases reads
        exact ⟨.opening .parenthesis :: ([.word _] ++ [.closing _]), rfl, .group (by decide) (.word _) _⟩
      · cases reads
        exact nothing
    · split at reads
      · obtain ⟨_, _, reads, same⟩ := bind_eq_some reads
        cases same
        exact front.takes reads
      · cases reads
        exact nothing
  · cases reads
    exact nothing

instance fronts_visibility : Fronts visibility := by
  have modifier : Fronts (optionalWord "pub") := fronts_optionalWord (by decide)
  unfold visibility
  infer_instance

section

variable
  {grammar : Grammar}
  [Deepens grammar grammar]

instance fronts_outerAttributes : Fronts (outerAttributes grammar) := by
  unfold outerAttributes outerAttribute
  infer_instance

instance fronts_innerAttributes : Fronts (innerAttributes grammar) := by
  unfold innerAttributes innerAttribute
  infer_instance

end

end Grammar

/-! ### Declarations that are read -/

/-- The row begins with the declaration, whatever stands behind its beginning. -/
structure Token.Declares (declared : Declared) (row : List Token) : Prop where
  begins : ∃ front rest, row = front ++ rest ∧ IsWhole front ∧ StaysInHead front
    ∧ ∀ more, declaredAhead (surface 0 front ++ more) = some declared

namespace Token.Declares

variable
  {declared : Declared}
  {row rest : List Token}

theorem append (declares : Declares declared row) (rest : List Token) : Declares declared (row ++ rest) := by
  obtain ⟨front, behind, rfl, known⟩ := declares.begins
  exact ⟨front, behind ++ rest, List.append_assoc .., known⟩

theorem behind {front : List Token} (declares : Declares declared row) (isFront : IsFront front) :
    Declares declared (front ++ row) := by
  obtain ⟨begins, rest, rfl, whole, stays, known⟩ := declares.begins
  refine ⟨front ++ begins, rest, (List.append_assoc ..).symm, isFront.whole.append whole,
    isFront.stays.append stays, fun more => ?_⟩
  rw [surface_append isFront.whole.level, List.append_assoc, isFront.quiet, known]

theorem struct (name : String) : Declares ⟨"struct", name⟩ [.word "struct", .word name] :=
  ⟨_, [], rfl, ⟨rfl⟩, .append (.word _) (.word _), fun _ => rfl⟩

theorem function (name : String) : Declares ⟨"fn", name⟩ [.word "fn", .word name] :=
  ⟨_, [], rfl, ⟨rfl⟩, .append (.word _) (.word _), fun _ => rfl⟩

theorem constant {name : String} (plain : name ∉ qualifiedWords) :
    Declares ⟨"const", name⟩ [.word "const", .word name] := by
  refine ⟨_, [], rfl, ⟨rfl⟩, .append (.word _) (.word _), fun more => ?_⟩
  exact if_neg fun isQualified => plain (List.contains_iff_mem.mp isQualified)

/-- The word for constants in front of a function. -/
theorem behindConst
    {text : String}
    (declares : Declares declared (.word text :: rest))
    (isQualified : text ∈ qualifiedWords) :
    Declares declared (.word "const" :: .word text :: rest) := by
  obtain ⟨front, more, same, whole, stays, known⟩ := declares.begins
  cases front with
  | nil => exact absurd (known []) (by simp [surface, declaredAhead])
  | cons first front =>
      cases same
      refine ⟨.word "const" :: .word text :: front, more, rfl, ⟨whole.level⟩, ?_, fun more => ?_⟩
      · exact StaysInHead.append (StaysInHead.word "const") stays
      · rw [← known more]
        exact if_pos (List.contains_iff_mem.mpr isQualified)

end Token.Declares

/-- A row that begins with a function, behind a word that may stand behind the one for constants. -/
def Token.DeclaresFunction (declared : Declared) (row : List Token) : Prop :=
  Declares declared row ∧ ∃ text rest, row = .word text :: rest ∧ text ∈ qualifiedWords

namespace Parser

variable
  {α : Type}
  {next : Bool → Parser (Node .signature × Bool)}

theorem Takes.behindQualifier
    {text : String}
    (isModifier : text ∈ modifierWords)
    (isQualified : text ∈ qualifiedWords)
    (behind : ∀ found, Takes (next found) fun answer taken => DeclaresFunction answer.1.signed taken) :
    Takes (Parser.optionalWord text >>= next) fun answer taken =>
      DeclaresFunction answer.1.signed taken := by
  refine (Takes.optionalWord text).bind behind ?_
  rintro found answer _ taken rfl ⟨declares, begins⟩
  cases found with
  | false => exact ⟨declares, begins⟩
  | true => exact ⟨declares.behind (.modifier isModifier), text, taken, rfl, isQualified⟩

end Parser

namespace Grammar

theorem takes_convention :
    Takes convention fun _ taken => taken = [] ∨ IsFront taken ∧ ∃ rest, taken = .word "extern" :: rest := by
  refine (Takes.optionalWord "extern").bind (Q := fun found _ taken =>
    if found then IsFront taken else taken = []) (fun found => ?_) ?_
  · cases found with
    | false =>
        rintro row _ _ ⟨⟩
        exact ⟨[], rfl, rfl⟩
    | true =>
        intro row value rest reads
        have reads := of_bind_peek reads
        split at reads
        · next isText =>
            obtain ⟨text, _, isLiteral, same⟩ := bind_eq_some reads
            cases same
            cases row with
            | nil => contradiction
            | cons first rest =>
                cases first with
                | literal spelled =>
                    cases isLiteral
                    exact ⟨[_], rfl, .literal _⟩
                | word | mark | opening | closing => contradiction
        · cases reads
          exact ⟨[], rfl, .nil⟩
  · rintro found _ _ taken rfl known
    cases found with
    | false => exact .inl known
    | true => exact .inr ⟨IsFront.append (.modifier (by decide)) known, taken, rfl⟩

section

variable
  {grammar : Grammar}
  [Deepens grammar grammar]

theorem takes_signature :
    Takes (signature grammar) fun signature taken => Declares signature.signed taken := by
  have whole : Takes (signatureWith grammar false) fun answer taken => Declares answer.1.signed taken := by
    unfold signatureWith
    refine (Takes.optionalWord "const").bind (Q := fun _ answer taken =>
      DeclaresFunction answer.1.signed taken) (fun isConst => ?_) ?_
    · refine Takes.behindQualifier (by decide : "async" ∈ modifierWords) (by decide) fun isAsync => ?_
      refine Takes.behindQualifier (by decide : "unsafe" ∈ modifierWords) (by decide) fun isUnchecked => ?_
      -- Only among foreign items there may be a word for safe functions.
      rw [Bool.false_and, if_neg Bool.false_ne_true, pure_bind]
      refine takes_convention.bind (Q := fun _ answer taken =>
        DeclaresFunction answer.1.signed taken) (fun linkage => ?_) ?_
      · refine (Takes.word "fn").bind
          (Q := fun _ answer taken => ∃ name rest, taken = .word name :: rest ∧ IsWhole rest
            ∧ answer.1.signed = ⟨"fn", name⟩)
          (fun _ => Takes.identifier.bind (fun name => .of_answers (P := fun answer =>
            answer.1.signed = ⟨"fn", name⟩) ?_) ?_) ?_
        · exact .bind fun _ => .bind fun _ => .bind fun _ => .bind fun _ => .pure rfl
        · rintro name answer _ taken rfl ⟨declared, whole⟩
          exact ⟨name, taken, rfl, whole, declared⟩
        · rintro _ answer _ _ rfl ⟨name, rest, rfl, -, declared⟩
          rw [declared]
          exact ⟨(Declares.function name).append rest, "fn", _, rfl, by decide⟩
      · rintro _ answer front taken (rfl | ⟨isFront, rest, rfl⟩) declares
        · exact declares
        · exact ⟨declares.1.behind isFront, "extern", _, rfl, by decide⟩
    · rintro found answer _ _ rfl ⟨declares, text, rest, rfl, isQualified⟩
      cases found with
      | false => exact declares
      | true => exact declares.behindConst isQualified
  intro row signature rest reads
  obtain ⟨_, _, reads, same⟩ := bind_eq_some reads
  cases same
  exact whole reads

theorem takes_constParts :
    Takes (constParts grammar) fun parts taken => Declares ⟨"const", parts.name⟩ taken := by
  have plain : Takes identifierOrUnderscore fun name taken =>
      taken = [.word name] ∧ name ∉ qualifiedWords := by
    intro row name rest reads
    have reads := of_bind_peek reads
    obtain ⟨_, _, required, reads⟩ := bind_eq_some reads
    obtain ⟨ahead, same⟩ := require_eq_some required
    rw [same] at reads
    cases row with
    | nil => contradiction
    | cons first rest =>
        cases first with
        | word found =>
            cases reads
            refine ⟨_, rfl, rfl, fun isQualified => ?_⟩
            have noName : ∀ text ∈ qualifiedWords,
                (atIdentifier (.word text :: rest) || atWord "_" (.word text :: rest)) = false := by
              simp [qualifiedWords, atIdentifier, atWord, keywords]
            exact Bool.false_ne_true ((noName name isQualified).symm.trans ahead)
        | mark | literal | opening | closing => contradiction
  unfold constParts
  refine (Takes.word "const").bind
    (Q := fun _ parts taken => parts.name ∉ qualifiedWords ∧ ∃ rest, taken = .word parts.name :: rest)
    (fun _ => plain.bind (fun name => .of_answers (P := fun parts => parts.name = name) ?_) ?_) ?_
  · refine .bind fun _ => .bind fun _ => .bind fun _ => .bind fun _ => ?_
    exact .ite (fun _ => .bind fun _ => .bind fun _ => .bind fun _ => .pure rfl)
      fun _ => .bind fun _ => .bind fun _ => .bind fun _ => .pure rfl
  · rintro name parts _ taken ⟨rfl, noQualifier⟩ ⟨rfl, -⟩
    exact ⟨noQualifier, taken, rfl⟩
  · rintro _ parts _ _ rfl ⟨noQualifier, rest, rfl⟩
    exact (Declares.constant noQualifier).append rest

end

end Grammar

/-- The first entry of a row that begins with a declaration declares it, whatever front was read before. -/
theorem Token.EndsEntry.exists_first_declared
    {row lead : List Token}
    {declared : Declared}
    (ends : EndsEntry row)
    (declares : Declares declared row)
    (isFront : IsFront lead) :
    ∃ entry more, readEntries ';' ⟨0, lead, none⟩ row = (entry :: more, .start)
      ∧ entry.declared? = some declared := by
  obtain ⟨front, rest, rfl, whole, stays, known⟩ := declares.begins
  obtain ⟨entry, more, reads, tail, grown⟩ := ends.exists_first_behind whole stays lead
  refine ⟨entry, more, reads, ?_⟩
  rw [RowEntry.declared?, ← grown, List.append_assoc, surface_append isFront.whole.level,
    surface_append whole.level, isFront.quiet, known]

/-- The items of consecutive rows declare no more than the entries of the rows do. -/
theorem declared_sublist
    {items : List (Node .item)}
    {cuts : List (List Token)}
    (each : List.Forall₂ (fun item cut => EndsEntry cut ∧ ∀ declared ∈ item.declared?, Declares declared cut)
      items cuts)
    {lead : List Token}
    (isFront : IsFront lead) :
    (items.filterMap Node.declared?).Sublist
      ((readEntries ';' ⟨0, lead, none⟩ cuts.flatten).1.filterMap RowEntry.declared?) := by
  induction each generalizing lead with
  | nil => exact List.nil_sublist _
  | @cons item cut items cuts first _ inductionHypothesis =>
      obtain ⟨ends, declares⟩ := first
      have behind := inductionHypothesis IsFront.nil
      rw [List.flatten_cons, readEntries_append, List.filterMap_append, List.filterMap_cons]
      cases found : item.declared? with
      | none =>
          obtain ⟨entry, more, reads, -⟩ := ends.exists_first lead
          rw [reads]
          exact behind.trans (List.sublist_append_right _ _)
      | some declared =>
          obtain ⟨entry, more, reads, isDeclared⟩ :=
            ends.exists_first_declared (declares declared found) isFront
          rw [reads, List.filterMap_cons, isDeclared]
          exact (behind.trans (List.sublist_append_right _ _)).cons_cons declared

/-! ### Implementations -/

theorem innerAttributes_of_statement
    {grammar : Grammar}
    {front : List Token}
    (isStatement : front ∈ statementFronts)
    (rest : List Token) :
    innerAttributes grammar (front ++ rest) = some (.ofList [], front ++ rest) := by
  simp only [statementFronts, List.mem_cons, List.not_mem_nil, or_false] at isStatement
  rcases isStatement with rfl | rfl <;> rfl

/-- No item of an implementation begins like a statement. -/
theorem repeatToEnd_of_statement
    {grammar : Grammar}
    {front : List Token}
    (isStatement : front ∈ statementFronts)
    (rest : List Token) :
    repeatToEnd (implMember grammar) (front ++ rest) = none := by
  simp only [statementFronts, List.mem_cons, List.not_mem_nil, or_false] at isStatement
  rcases isStatement with rfl | rfl <;> rfl

/-- What the item declares, its row begins with. -/
def IsDeclaredBy (item : Node .item) (row : List Token) : Prop :=
  ∀ declared ∈ item.declared?, Declares declared row

namespace Parser

variable
  {α : Type}
  {reader : Parser α}
  {next : α → Parser (Node .item)}

theorem Takes.behindFront
    [front : Fronts reader]
    (behind : ∀ value, Takes (next value) IsDeclaredBy) :
    Takes (reader >>= next) IsDeclaredBy :=
  front.takes.bind behind fun _ _ _ _ isFront declares declared isDeclared =>
    (declares declared isDeclared).behind isFront

/-- An item that declares nothing. -/
theorem Takes.behindOther
    [Extends reader reader]
    (behind : ∀ value, Takes (next value) fun item _ => item.declared? = none) :
    Takes (reader >>= next) IsDeclaredBy := by
  refine Takes.whole.bind behind ?_
  intro value item taken takenBehind _ nothing
  simp [IsDeclaredBy, nothing]

/-- An item that declares nothing declares no other than it should. -/
theorem declares_nothing (declared : Declared) : ∀ other ∈ (none : Option Declared), other = declared := by
  simp

theorem Takes.declaring
    {declared : α → Declared}
    (first : Takes reader fun value taken => Declares (declared value) taken)
    (behind : ∀ value, Takes (next value) fun item _ => ∀ other ∈ item.declared?, other = declared value) :
    Takes (reader >>= next) IsDeclaredBy := by
  refine first.bind behind ?_
  intro value item taken takenBehind declares same other isOther
  rw [same other isOther]
  exact declares.append takenBehind

end Parser

namespace Grammar

section

variable
  {grammar : Grammar}
  [Deepens grammar grammar]

theorem takes_implMember : Takes (implMember grammar) IsDeclaredBy := by
  have marker : Fronts (optionalWord "default") := fronts_optionalWord (by decide)
  unfold implMember
  refine .behindFront fun tokens => .behindFront fun attributes => .behindFront fun access =>
    .behindFront fun defaultAhead => ?_
  -- Whichever marker is in front of it, what is read behind the front is read alike.
  refine .ite (.behindFront fun isDefault => ?_) (.behindFront fun isDefault => ?_)
  all_goals
    refine .behindFront fun ahead => .ite ?function (.ite ?constant (.ite ?type (.ite ?invocation .refuse)))
    case function =>
      refine takes_signature.declaring fun signature => .answers (.bind fun found => .ite (fun _ => ?_) fun _ => ?_)
      · exact .bind fun _ => .pure (declares_nothing _)
      · exact .bind fun _ => .pure fun _ isOther => (Option.some.inj isOther).symm
    case constant =>
      refine takes_constParts.declaring fun parts => ?_
      split
      · exact .answers (.ite (fun _ => .bind fun _ => .pure (declares_nothing _))
          fun _ => .pure fun _ isOther => (Option.some.inj isOther).symm)
      · exact .answers (.bind fun _ => .pure (declares_nothing _))
    case type =>
      refine .behindOther fun parts => ?_
      split
      · exact .answers (.ite (fun _ => .bind fun _ => .pure rfl) fun _ => .pure rfl)
      · exact .answers (.bind fun _ => .pure rfl)
    case invocation =>
      refine .behindOther fun invocation => .answers (.ite (fun _ => .bind fun _ => .pure rfl) fun _ => .pure rfl)

/-- The functions of an implementation are in its block, in the same order. -/
theorem takes_implBlock :
    Takes (itemBlock grammar (implMember grammar)) fun answer taken =>
      ∃ block closing, taken = .opening .brace :: (block ++ [.closing closing]) ∧ IsWhole block
        ∧ (answer.2.toList.filterMap Node.function?).Sublist (functionsIn block) := by
  intro row answer rest reads
  obtain ⟨behind, closing, rfl, readsContent⟩ := inside_eq_some reads
  have content : Takes (do
      let inner ← innerAttributes grammar
      let items ← repeatToEnd (implMember grammar)
      return (inner, .ofList items) : Parser (Node (.many .attribute) × Node (.many .item)))
      fun _ taken => IsWhole taken := Takes.whole
  obtain ⟨block, same, whole⟩ := content readsContent
  refine ⟨.opening .brace :: (block ++ [.closing closing]), by simp [same], block, closing, rfl, whole, ?_⟩
  obtain ⟨inner, between, readsInner, readsBehind⟩ := bind_eq_some readsContent
  obtain ⟨items, _, readsItems, returned⟩ := bind_eq_some readsBehind
  cases returned
  rw [Node.toList_ofList]
  rw [functionsIn]
  split
  · next begins =>
    obtain ⟨front, isStatement, begins⟩ := List.any_eq_true.mp begins
    obtain ⟨more, rfl⟩ := List.isPrefixOf_iff_prefix.mp begins
    rw [same, List.append_assoc, innerAttributes_of_statement isStatement] at readsInner
    cases readsInner
    rw [repeatToEnd_of_statement isStatement] at readsItems
    contradiction
  · obtain ⟨lead, rfl, isFront⟩ := fronts_innerAttributes.takes readsInner
    obtain ⟨_, rfl, cuts, rfl, each⟩ := (Takes.ends.and takes_implMember).repeatToEnd readsItems
    rw [← List.append_assoc] at same
    cases List.append_cancel_right same
    have declared := declared_sublist each isFront
    have within : readEntries ';' ⟨0, lead, none⟩ cuts.flatten
        = readEntries ';' .start (lead ++ cuts.flatten) := by
      rw [readEntries_append, EntryState.start, RowEntry.empty, isFront.stays]
      rfl
    rw [within] at declared
    have functions := declared.filterMap Declared.function?
    rw [List.filterMap_filterMap, List.filterMap_filterMap] at functions
    refine functions.trans ?_
    rw [entries, List.filterMap_append]
    exact List.sublist_append_left _ _

end

end Grammar

/-- The functions of the item, if there are any, are those of a block of the row, in the same order. -/
def HoldsBlock (item : Node .item) (row : List Token) : Prop :=
  item.functions = [] ∨ ∃ front block closing, row = front ++ .opening .brace :: (block ++ [.closing closing])
    ∧ IsWhole front ∧ IsWhole block ∧ item.functions.Sublist (functionsIn block)

theorem HoldsBlock.behind
    {item : Node .item}
    {front row : List Token}
    (holds : HoldsBlock item row)
    (whole : IsWhole front) :
    HoldsBlock item (front ++ row) := by
  refine holds.imp_right ?_
  rintro ⟨head, block, closing, rfl, wholeHead, known⟩
  exact ⟨front ++ head, block, closing, (List.append_assoc ..).symm, whole.append wholeHead, known⟩

theorem Parser.Takes.behindHead
    {α : Type}
    {reader : Parser α}
    {next : α → Parser (Node .item)}
    [Extends reader reader]
    (behind : ∀ value, Takes (next value) HoldsBlock) :
    Takes (reader >>= next) HoldsBlock :=
  Takes.whole.bind behind fun _ _ _ _ whole holds => holds.behind whole

namespace Grammar

section

variable
  {grammar : Grammar}
  [Deepens grammar grammar]

/-- An implementation behind its head. -/
theorem takes_behindHead
    {next : Node (.many .attribute) × Node (.many .item) → Parser (Node .item)}
    (stays : ∀ answer, Stays (next answer) (next answer))
    (members : ∀ answer, Answers (next answer) fun item =>
      item.functions = [] ∨ item.functions = answer.2.toList.filterMap Node.function?) :
    Takes (itemBlock grammar (implMember grammar) >>= next) HoldsBlock := by
  intro row item rest reads
  obtain ⟨answer, between, readsBlock, behind⟩ := bind_eq_some reads
  obtain ⟨-, rfl⟩ := (stays answer).answers behind
  obtain ⟨_, rfl, block, closing, rfl, whole, apart⟩ := takes_implBlock readsBlock
  refine ⟨_, rfl, ?_⟩
  rcases members answer behind with none | same
  · exact .inl none
  · exact .inr ⟨[], block, closing, rfl, .nil, whole, same ▸ apart⟩

theorem takes_implItem (start : ItemStart) : Takes (implItem grammar start) HoldsBlock := by
  unfold implItem
  dsimp only
  repeat' first
    | with_reducible refine Takes.ite ?_ ?_
    | with_reducible refine takes_behindHead (fun _ => inferInstance) fun _ => ?_
    | with_reducible refine Takes.behindHead fun _ => ?_
  all_goals exact .ite (fun _ => .bind fun _ => .pure (.inl rfl)) fun _ => .pure (.inr rfl)

theorem takes_functionItem (start : ItemStart) : Takes (functionItem grammar start) IsDeclaredBy := by
  unfold functionItem
  refine takes_signature.declaring fun signature =>
    .answers (.bind fun found =>
      .ite (fun _ => .bind fun _ => .pure (declares_nothing _)) fun _ => .bind fun _ => ?_)
  exact .pure fun _ isOther => (Option.some.inj isOther).symm

theorem takes_constItem (start : ItemStart) : Takes (constItem grammar start) IsDeclaredBy := by
  unfold constItem
  refine takes_constParts.declaring fun parts => ?_
  split
  · exact .answers (.ite (fun _ => .bind fun _ => .pure (declares_nothing _))
      fun _ => .pure fun _ isOther => (Option.some.inj isOther).symm)
  · exact .answers (.bind fun _ => .pure (declares_nothing _))

theorem takes_structItem (start : ItemStart) : Takes (structItem grammar start) IsDeclaredBy := by
  unfold structItem
  refine (Takes.word "struct").bind
    (Q := fun _ item taken => ∃ name rest, taken = .word name :: rest
      ∧ item.declared? = some ⟨"struct", name⟩)
    (fun _ => Takes.identifier.bind
      (fun name => .answers (P := fun item => item.declared? = some ⟨"struct", name⟩) ?_) ?_) ?_
  · exact .bind fun _ => .bind fun _ => .pure rfl
  · rintro name item _ taken rfl declared
    exact ⟨name, taken, rfl, declared⟩
  · rintro _ item _ _ rfl ⟨name, rest, rfl, declared⟩ other isOther
    cases declared.symm.trans isOther
    exact (Declares.struct name).append rest

end

end Grammar

/-! ### Items of all kinds -/

/-- The item declares what its row begins with, and holds functions as a block of the row does. -/
structure IsReadFrom (item : Node .item) (row : List Token) : Prop where
  declared : IsDeclaredBy item row
  block : HoldsBlock item row

theorem IsReadFrom.behind
    {item : Node .item}
    {front row : List Token}
    (read : IsReadFrom item row)
    (isFront : IsFront front) :
    IsReadFrom item (front ++ row) :=
  ⟨fun declared isDeclared => (read.declared declared isDeclared).behind isFront,
    read.block.behind isFront.whole⟩

namespace Parser

variable
  {α : Type}
  {reader : Parser (Node .item)}
  [Extends reader reader]

theorem Answers.refuse {holds : α → Prop} : Answers (Parser.refuse : Parser α) holds := by
  rintro _ _ _ ⟨⟩

theorem Takes.declaration
    (declares : Takes reader IsDeclaredBy)
    (answers : Answers reader fun item => item.functions = []) :
    Takes reader IsReadFrom :=
  (declares.and (Takes.answers answers)).mono fun _ _ ⟨declares, bare⟩ =>
    ⟨declares, .inl bare⟩

theorem Takes.implementation
    (holds : Takes reader HoldsBlock)
    (answers : Answers reader fun item => item.declared? = none) :
    Takes reader IsReadFrom := by
  refine (holds.and (Takes.answers answers)).mono ?_
  rintro item row ⟨holds, none⟩
  exact ⟨by simp [IsDeclaredBy, none], holds⟩

theorem Takes.behindItemFront
    {α : Type}
    {first : Parser α}
    {next : α → Parser (Node .item)}
    [front : Fronts first]
    (behind : ∀ value, Takes (next value) IsReadFrom) :
    Takes (first >>= next) IsReadFrom :=
  front.takes.bind behind fun _ _ _ _ isFront read => read.behind isFront

/-- An item that declares nothing, and holds no functions. -/
theorem Takes.other (answers : Answers reader fun item => item.declared? = none ∧ item.functions = []) :
    Takes reader IsReadFrom := by
  refine (Takes.answers answers).mono ?_
  rintro item row ⟨nothing, none⟩
  exact ⟨by simp [IsDeclaredBy, nothing], .inl none⟩

end Parser

namespace Grammar

section

variable
  {grammar : Grammar}
  [Deepens grammar grammar]

theorem takes_itemBehind (tokens : List Token) (attributes : Node (.many .attribute)) :
    Takes (itemBehind grammar tokens attributes) IsReadFrom := by
  unfold itemBehind
  refine .behindItemFront fun access => .behindItemFront fun ahead => ?_
  unfold uncheckedItem
  dsimp only
  repeat' with_reducible refine Takes.ite ?_ ?_
  all_goals first
    | with_reducible exact Takes.refuse
    | with_reducible refine Takes.declaration (takes_functionItem _) ?_
    | with_reducible refine Takes.declaration (takes_constItem _) ?_
    | with_reducible refine Takes.declaration (takes_structItem _) ?_
    | with_reducible refine Takes.implementation (takes_implItem _) ?_
    | with_reducible refine Takes.other ?_
  all_goals first
    | unfold functionItem | unfold constItem | unfold structItem | unfold implItem | unfold crateItem
    | unfold foreignItem | unfold useItem | unfold staticItem | unfold moduleItem | unfold typeItem
    | unfold enumItem | unfold unionItem | unfold traitItem | unfold macroDefinition
    | unfold invocationItem
  all_goals
    dsimp only
    repeat' first
      | exact Answers.pure rfl
      | exact Answers.pure ⟨rfl, rfl⟩
      | with_reducible refine Answers.ite (fun _ => ?_) fun _ => ?_
      | with_reducible refine Answers.bind fun _ => ?_
      | with_reducible exact Answers.refuse
      | unfold verbatim
      | split

theorem takes_readItem : Takes (readItem grammar) fun item row => EndsEntry row ∧ IsReadFrom item row := by
  refine Takes.ends.and ?_
  unfold readItem
  exact .behindItemFront fun tokens => .behindItemFront fun attributes => takes_itemBehind tokens attributes

end

theorem takes_item (depth : Nat) :
    Takes (toDepth depth).item fun item row => EndsEntry row ∧ IsReadFrom item row := by
  cases depth with
  | zero => exact .refuse
  | succ depth => exact takes_readItem

end Grammar

/-! ### Files -/

/-- What the items of a file declare are declarations of the entries of its row, in the same order. -/
structure SourceFile.IsReadFrom (file : SourceFile) (row : List Token) : Prop where
  declared : (file.items.filterMap Node.declared?).Sublist ((entries ';' row).filterMap RowEntry.declared?)
  functions : ∀ item ∈ file.items, item.functions = [] ∨ ∃ entry ∈ entries ';' row,
    ∃ block ∈ entry.body, item.functions.Sublist (functionsIn block)

/-- An item of consecutive rows has its functions from the block of an entry. -/
theorem exists_entry_of_functions
    {items : List (Node .item)}
    {cuts : List (List Token)}
    (each : List.Forall₂ (fun item cut => EndsEntry cut ∧ HoldsBlock item cut) items cuts)
    {item : Node .item}
    (member : item ∈ items)
    (lead : List Token) :
    item.functions = [] ∨ ∃ entry ∈ (readEntries ';' ⟨0, lead, none⟩ cuts.flatten).1,
      ∃ block ∈ entry.body, item.functions.Sublist (functionsIn block) := by
  induction each generalizing lead with
  | nil => contradiction
  | @cons first cut items cuts known _ inductionHypothesis =>
      obtain ⟨ends, holds⟩ := known
      rw [List.flatten_cons, readEntries_append]
      rcases List.mem_cons.mp member with rfl | isLater
      · refine holds.imp_right ?_
        rintro ⟨front, block, closing, rfl, wholeFront, wholeBlock, apart⟩
        obtain ⟨read, last, reads, -⟩ := EndsEntry.readEntries_block wholeFront wholeBlock closing lead
        exact ⟨⟨last, some block⟩, by simp [reads], block, rfl, apart⟩
      · obtain ⟨entry, more, reads, -⟩ := ends.exists_first lead
        refine (inductionHypothesis isLater []).imp_right ?_
        rintro ⟨other, isEntry, known⟩
        rw [reads]
        exact ⟨other, List.mem_append_right _ isEntry, known⟩

/-- A file that is read declares what its row does. -/
theorem SourceFile.isReadFrom_of_fileContent
    {depth : Nat}
    {row : List Token}
    {file : SourceFile}
    (reads : fileContent (toDepth depth) row = some (file, [])) :
    file.IsReadFrom row := by
  obtain ⟨inner, between, readsInner, readsBehind⟩ := bind_eq_some reads
  obtain ⟨items, _, readsItems, returned⟩ := bind_eq_some readsBehind
  cases returned
  obtain ⟨lead, rfl, isFront⟩ := fronts_innerAttributes.takes readsInner
  obtain ⟨_, rfl, cuts, rfl, each⟩ := (takes_item depth).repeatToEnd readsItems
  have within : readEntries ';' .start (lead ++ cuts.flatten ++ [])
      = readEntries ';' ⟨0, lead, none⟩ cuts.flatten := by
    rw [List.append_nil, readEntries_append, EntryState.start, RowEntry.empty, isFront.stays]
    rfl
  rw [← List.append_assoc]
  constructor
  case declared =>
    have declared := declared_sublist (each.imp fun _ _ known => ⟨known.1, known.2.declared⟩) isFront
    rw [entries, List.filterMap_append, within]
    exact declared.trans (List.sublist_append_left _ _)
  case functions =>
    intro item member
    have each := each.imp fun _ _ known => And.intro known.1 known.2.block
    refine (exists_entry_of_functions each member lead).imp_right ?_
    rintro ⟨entry, isEntry, known⟩
    rw [← within] at isEntry
    exact ⟨entry, List.mem_append_left _ isEntry, known⟩

end Scaffold.Source
