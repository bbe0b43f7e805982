import Scaffold.Proofs.Source.Depth.Types
import Scaffold.Proofs.Source.Imports

/-!
Contract: readers that read up to where an entry of a file ends.

Owns:
- rows that end an entry: with a semicolon, or with a block in braces, outside of all groups;
- readers that read nothing, and readers whose row ends an entry.

Does not own: the readers of items.
-/

namespace Scaffold.Source

/-- A row that a semicolon or a block in braces ends, outside of all groups. -/
inductive Token.EndsEntry : List Token → Prop where
  | semicolon
      {front : List Token}
      (whole : IsWhole front)
      (spacing : Spacing) :
      EndsEntry (front ++ [.mark ';' spacing])
  | block
      {front inside : List Token}
      (whole : IsWhole front)
      (wholeInside : IsWhole inside)
      (closing : Delimiter) :
      EndsEntry (front ++ .opening .brace :: (inside ++ [.closing closing]))

namespace Token.EndsEntry

variable {front row : List Token}

theorem isWhole (ends : EndsEntry row) : IsWhole row := by
  cases ends with
  | semicolon whole => exact whole.append ⟨rfl⟩
  | block whole wholeInside closing => exact whole.append (wholeInside.group _ _)

theorem behind (ends : EndsEntry row) (whole : IsWhole front) : EndsEntry (front ++ row) := by
  cases ends with
  | semicolon wholeRow spacing =>
      rw [← List.append_assoc]
      exact .semicolon (whole.append wholeRow) spacing
  | block wholeRow wholeInside closing =>
      rw [← List.append_assoc]
      exact .block (whole.append wholeRow) wholeInside closing

end Token.EndsEntry

namespace Parser

open Token

variable {α β : Type}

/-- Where the shallow reader answers, the deep one gives the same answer, and nothing was read. -/
class Stays (shallow deep : Parser α) : Prop where
  answers : ∀ {row value rest}, shallow row = some (value, rest) →
    deep row = some (value, rest) ∧ rest = row

/-- Where the shallow reader answers, the deep one gives the same answer, and what was read ends an
entry. -/
class Ends (shallow deep : Parser α) : Prop where
  answers : ∀ {row value rest}, shallow row = some (value, rest) →
    deep row = some (value, rest) ∧ ∃ taken, row = taken ++ rest ∧ EndsEntry taken

/-! ### Readers that read nothing -/

section Stays

variable
  {shallow deep : Parser α}
  {shallowNext deepNext : α → Parser β}

instance stays_pure (value : α) : Stays (pure value : Parser α) (pure value) :=
  ⟨fun reads => by
    cases reads
    exact ⟨rfl, rfl⟩⟩

instance stays_get : Stays (get : Parser (List Token)) get :=
  ⟨fun reads => by
    cases reads
    exact ⟨rfl, rfl⟩⟩

instance stays_bind [first : Stays shallow deep] [next : ∀ value, Stays (shallowNext value) (deepNext value)] :
    Stays (shallow >>= shallowNext) (deep >>= deepNext) := by
  constructor
  intro row value rest reads
  obtain ⟨read, between, reads, behind⟩ := bind_eq_some reads
  obtain ⟨same, rfl⟩ := first.answers reads
  obtain ⟨sameBehind, rfl⟩ := (next read).answers behind
  exact ⟨(bind_of_eq_some same _).trans sameBehind, rfl⟩

instance stays_ite
    {condition : Prop}
    [Decidable condition]
    {shallowElse deepElse : Parser α}
    [Stays shallow deep]
    [Stays shallowElse deepElse] :
    Stays (if condition then shallow else shallowElse) (if condition then deep else deepElse) := by
  split <;> infer_instance

instance stays_readSince (start : List Token) : Stays (readSince start) (readSince start) := by
  unfold readSince
  infer_instance

instance (priority := low) extends_of_stays [stays : Stays shallow deep] : Extends shallow deep := by
  constructor
  intro row value rest reads
  obtain ⟨same, rfl⟩ := stays.answers reads
  exact ⟨same, [], rfl, .nil⟩

end Stays

/-! ### Readers that end an entry -/

section Ends

variable
  {shallow deep : Parser α}
  {shallowNext deepNext : α → Parser β}

instance (priority := low) extends_of_ends [ends : Ends shallow deep] : Extends shallow deep := by
  constructor
  intro row value rest reads
  obtain ⟨same, taken, rfl, ended⟩ := ends.answers reads
  exact ⟨same, taken, rfl, ended.isWhole⟩

/-- What ends an entry stands behind something else. -/
theorem Ends.behind
    (first : Extends shallow deep)
    (next : ∀ value, Ends (shallowNext value) (deepNext value)) :
    Ends (shallow >>= shallowNext) (deep >>= deepNext) := by
  constructor
  intro row value rest reads
  obtain ⟨read, between, reads, behind⟩ := bind_eq_some reads
  obtain ⟨same, taken, rfl, whole⟩ := first.answers reads
  obtain ⟨sameBehind, takenBehind, rfl, ended⟩ := (next read).answers behind
  exact ⟨(bind_of_eq_some same _).trans sameBehind, taken ++ takenBehind,
    (List.append_assoc ..).symm, ended.behind whole⟩

/-- Nothing is read behind what ends an entry. -/
theorem Ends.last
    (first : Ends shallow deep)
    (next : ∀ value, Stays (shallowNext value) (deepNext value)) :
    Ends (shallow >>= shallowNext) (deep >>= deepNext) := by
  constructor
  intro row value rest reads
  obtain ⟨read, between, reads, behind⟩ := bind_eq_some reads
  obtain ⟨same, taken, rfl, ended⟩ := first.answers reads
  obtain ⟨sameBehind, rfl⟩ := (next read).answers behind
  exact ⟨(bind_of_eq_some same _).trans sameBehind, taken, rfl, ended⟩

instance (priority := low) ends_behind
    [Extends shallow deep]
    [∀ value, Ends (shallowNext value) (deepNext value)] :
    Ends (shallow >>= shallowNext) (deep >>= deepNext) :=
  .behind inferInstance inferInstance

instance ends_last
    [∀ value, Stays (shallowNext value) (deepNext value)]
    [Ends shallow deep] :
    Ends (shallow >>= shallowNext) (deep >>= deepNext) :=
  .last inferInstance inferInstance

theorem Ends.ite
    {condition : Prop}
    [Decidable condition]
    {shallowElse deepElse : Parser α}
    (holds : Ends shallow deep)
    (fails : Ends shallowElse deepElse) :
    Ends (if condition then shallow else shallowElse) (if condition then deep else deepElse) := by
  split
  · exact holds
  · exact fails

instance ends_ite
    {condition : Prop}
    [Decidable condition]
    {shallowElse deepElse : Parser α}
    [Ends shallow deep]
    [Ends shallowElse deepElse] :
    Ends (if condition then shallow else shallowElse) (if condition then deep else deepElse) :=
  .ite inferInstance inferInstance

instance ends_refuse : Ends (refuse : Parser α) refuse :=
  ⟨fun reads => by contradiction⟩

theorem exists_of_atSemicolon {row : List Token} (ahead : atMarks ";" row = true) :
    ∃ spacing rest, row = .mark ';' spacing :: rest := by
  cases row with
  | nil => contradiction
  | cons first rest =>
      cases first with
      | mark char spacing =>
          obtain rfl : char = ';' := beq_iff_eq.mp ahead
          exact ⟨spacing, rest, rfl⟩
      | word | literal | opening | closing => contradiction

instance ends_semicolon : Ends (marks ";") (marks ";") := by
  constructor
  intro row value rest reads
  obtain ⟨ahead, same⟩ := Option.ite_none_right_eq_some.mp reads
  cases same
  refine ⟨reads, ?_⟩
  obtain ⟨spacing, rest, rfl⟩ := exists_of_atSemicolon ahead
  exact ⟨[.mark ';' spacing], rfl, .semicolon .nil spacing⟩

instance ends_block [extends_ : Extends shallow deep] :
    Ends (inside .brace shallow) (inside .brace deep) := by
  constructor
  intro row value rest reads
  obtain ⟨_, closing, rfl, found⟩ := inside_eq_some reads
  obtain ⟨same, taken, rfl, whole⟩ := extends_.answers found
  have ended : EndsEntry (.opening .brace :: (taken ++ [.closing closing])) := .block .nil whole closing
  refine ⟨?_, _, by simp, ended⟩
  rw [inside, if_pos rfl, same]

/-- A semicolon that may be left out, and what stands in its place. -/
instance ends_optionalSemicolon
    {shallowElse deepElse : Parser α}
    [given : Stays shallow deep]
    [absent : Ends shallowElse deepElse] :
    Ends (optionalMarks ";" >>= fun found => if found then shallow else shallowElse)
      (optionalMarks ";" >>= fun found => if found then deep else deepElse) := by
  constructor
  intro row value rest reads
  obtain ⟨found, between, first, behind⟩ := bind_eq_some reads
  rw [bind_of_eq_some first]
  obtain ⟨isAhead, rfl⟩ := optionalMarks_eq_some first
  cases found with
  | false => exact absent.answers behind
  | true =>
      obtain ⟨same, rfl⟩ := given.answers behind
      obtain ⟨spacing, rest, rfl⟩ := exists_of_atSemicolon isAhead.symm
      exact ⟨same, [.mark ';' spacing], rfl, .semicolon .nil spacing⟩

/-! ### Macro arguments -/

/-- What the reader reads is whole, and ends an entry if its value tells of braces. -/
structure EndsInBraces (delimiter : α → Delimiter) (reader : Parser α) : Prop where
  taken : ∀ {row value rest}, reader row = some (value, rest) →
    ∃ taken, row = taken ++ rest ∧ IsWhole taken ∧ (delimiter value = .brace → EndsEntry taken)

theorem endsInBraces_anyGroup : EndsInBraces Prod.fst anyGroup := by
  constructor
  rintro row ⟨delimiter, inside⟩ rest reads
  obtain ⟨closing, rfl, whole⟩ := anyGroup_eq_some reads
  refine ⟨_, rfl, whole.group _ _, ?_⟩
  rintro rfl
  exact .block .nil whole closing

/-- A group that has to be in braces. -/
instance ends_bracedGroup
    {next : Delimiter × List Token → Parser β}
    [stays : ∀ group, Stays (next group) (next group)] :
    Ends (peek atBrace >>= fun ahead => require ahead >>= fun _ => anyGroup >>= next)
      (peek atBrace >>= fun ahead => require ahead >>= fun _ => anyGroup >>= next) := by
  constructor
  intro row value rest reads
  refine ⟨reads, ?_⟩
  have required := of_bind_peek reads
  obtain ⟨⟨⟩, _, required, behind⟩ := bind_eq_some required
  obtain ⟨ahead, same⟩ := require_eq_some required
  rw [same] at behind
  obtain ⟨⟨delimiter, inside⟩, _, grouped, last⟩ := bind_eq_some behind
  obtain ⟨-, rfl⟩ := (stays (delimiter, inside)).answers last
  obtain ⟨closing, rfl, whole⟩ := anyGroup_eq_some grouped
  obtain rfl : delimiter = .brace := beq_iff_eq.mp ahead
  exact ⟨_, rfl, .block .nil whole closing⟩

theorem EndsInBraces.behind
    {delimiter : β → Delimiter}
    {first : Parser α}
    {next : α → Parser β}
    (whole : Extends first first)
    (ends : ∀ value, EndsInBraces delimiter (next value)) :
    EndsInBraces delimiter (first >>= next) := by
  constructor
  intro row value rest reads
  obtain ⟨read, between, reads, behind⟩ := bind_eq_some reads
  obtain ⟨-, taken, rfl, whole⟩ := whole.answers reads
  obtain ⟨takenBehind, rfl, wholeBehind, ended⟩ := (ends read).taken behind
  exact ⟨taken ++ takenBehind, (List.append_assoc ..).symm, whole.append wholeBehind,
    fun braces => (ended braces).behind whole⟩

theorem endsInBraces_invocation : EndsInBraces Invocation.delimiter Grammar.invocation :=
  .behind inferInstance fun path => .behind inferInstance fun _ => by
    constructor
    intro row value rest reads
    obtain ⟨group, between, reads, same⟩ := bind_eq_some reads
    cases same
    exact endsInBraces_anyGroup.taken reads

/-- Arguments in braces need nothing behind them. -/
theorem Ends.delimited
    {delimiter : α → Delimiter}
    {reader : Parser α}
    {shallowNext deepNext : α → Parser β}
    (ends : EndsInBraces delimiter reader)
    (others : ∀ value, delimiter value ≠ .brace → Ends (shallowNext value) (deepNext value))
    (braces : ∀ value, delimiter value = .brace → Stays (shallowNext value) (deepNext value)) :
    Ends (reader >>= shallowNext) (reader >>= deepNext) := by
  constructor
  intro row value rest reads
  obtain ⟨read, between, first, behind⟩ := bind_eq_some reads
  rw [bind_of_eq_some first]
  obtain ⟨taken, rfl, whole, ended⟩ := ends.taken first
  by_cases isBrace : delimiter read = .brace
  · obtain ⟨same, rfl⟩ := (braces read isBrace).answers behind
    exact ⟨same, taken, rfl, ended isBrace⟩
  · obtain ⟨same, takenBehind, rfl, endedBehind⟩ := (others read isBrace).answers behind
    exact ⟨same, taken ++ takenBehind, (List.append_assoc ..).symm, endedBehind.behind whole⟩

end Ends

end Parser

end Scaffold.Source
