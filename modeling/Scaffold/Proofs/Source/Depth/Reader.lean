import Scaffold.Proofs.Source.Depth.Level
import Scaffold.Proofs.Source.TypeReading

/-!
Contract: readers that answer alike when they are given more depth, and the rows they take.

Owns:
- the relation between a reader and one over deeper readers: where the first answers, the second gives
  the same answer, and what was read is a whole row;
- the readers of single tokens and of groups, and the combinators that keep the relation.

Does not own: the readers of the grammar.
-/

namespace Scaffold.Source

/-! ### Rows of single tokens -/

namespace Token

/-- What a test on the characters of an operator finds is a row of marks. -/
theorem exists_of_atMarkChars
    {chars : List Char}
    {row : List Token}
    (ahead : Parser.atMarkChars chars row = true) :
    ∃ taken rest, row = taken ++ rest ∧ taken.length = chars.length ∧ IsWhole taken := by
  fun_induction Parser.atMarkChars chars row with
  | case1 => exact ⟨[], _, rfl, rfl, .nil⟩
  | case2 => exact ⟨[_], _, rfl, rfl, ⟨rfl⟩⟩
  | case3 _ _ mark spacing _ _ inductionHypothesis =>
      obtain ⟨taken, rest, rfl, length, whole⟩ := inductionHypothesis (by simp_all)
      exact ⟨.mark mark spacing :: taken, rest, rfl, by simp [length], ⟨whole.level⟩⟩
  | case4 => contradiction

/-- The row in front of what closes a group is whole. -/
theorem isWhole_of_splitGroup
    {level : Nat}
    {row inside rest : List Token}
    (split : splitGroup level row = some (inside, rest)) :
    ∃ delimiter, row = inside ++ .closing delimiter :: rest ∧ levelBehind level inside = some 0 := by
  induction row generalizing level inside with
  | nil => contradiction
  | cons token row inductionHypothesis =>
      cases token with
      | word | mark | literal | opening =>
          obtain ⟨⟨front, _⟩, found, same⟩ := Option.map_eq_some_iff.mp split
          cases same
          obtain ⟨delimiter, rfl, whole⟩ := inductionHypothesis found
          exact ⟨delimiter, rfl, whole⟩
      | closing =>
          cases level with
          | zero =>
              cases split
              exact ⟨_, rfl, rfl⟩
          | succ outer =>
              obtain ⟨⟨front, _⟩, found, same⟩ := Option.map_eq_some_iff.mp split
              cases same
              obtain ⟨delimiter, rfl, whole⟩ := inductionHypothesis found
              exact ⟨delimiter, rfl, whole⟩

end Token

namespace Parser

open Token

variable {α β : Type}

/-- Where the shallow reader answers, the deep one gives the same answer, and a whole row was read. -/
class Extends (shallow deep : Parser α) : Prop where
  answers : ∀ {row value rest}, shallow row = some (value, rest) →
    deep row = some (value, rest) ∧ ∃ taken, row = taken ++ rest ∧ IsWhole taken

/-! ### Readers without parts -/

section Single

/-- A reader that takes a whole row extends itself. -/
theorem Extends.of_whole
    {reader : Parser α}
    (whole : ∀ {row value rest}, reader row = some (value, rest) →
      ∃ taken, row = taken ++ rest ∧ IsWhole taken) :
    Extends reader reader :=
  ⟨fun reads => ⟨reads, whole reads⟩⟩

instance extends_pure (value : α) : Extends (pure value : Parser α) (pure value) :=
  .of_whole fun reads => by
    cases reads
    exact ⟨[], rfl, .nil⟩

instance extends_get : Extends (get : Parser (List Token)) get :=
  .of_whole fun reads => by
    cases reads
    exact ⟨[], rfl, .nil⟩

instance extends_refuse : Extends (refuse : Parser α) refuse :=
  .of_whole fun reads => by contradiction

/-- Nothing has to be answered where the shallow reader never answers. -/
theorem Extends.of_refuse (deep : Parser α) : Extends refuse deep :=
  ⟨fun reads => by contradiction⟩

instance extends_word (text : String) : Extends (word text) (word text) :=
  .of_whole fun {row _ _} reads => by
    unfold word at reads
    split at reads
    · obtain ⟨rfl, same⟩ := Option.ite_none_right_eq_some.mp reads
      cases same
      exact ⟨[_], rfl, .word _⟩
    · contradiction

instance extends_anyWord : Extends anyWord anyWord :=
  .of_whole fun reads => by
    unfold anyWord at reads
    split at reads
    · cases reads
      exact ⟨[_], rfl, .word _⟩
    · contradiction

instance extends_marks (operator : String) : Extends (marks operator) (marks operator) :=
  .of_whole fun {row value rest} reads => by
    obtain ⟨ahead, same⟩ := Option.ite_none_right_eq_some.mp reads
    cases same
    obtain ⟨taken, rest, rfl, length, whole⟩ := exists_of_atMarkChars ahead
    refine ⟨taken, ?_, whole⟩
    rw [← String.length_toList, ← length, List.drop_left]

instance extends_lifetime : Extends lifetime lifetime :=
  .of_whole fun reads => by
    unfold lifetime at reads
    split at reads
    · cases reads
      exact ⟨[_, _], rfl, ⟨rfl⟩⟩
    · contradiction

instance extends_literal : Extends literal literal :=
  .of_whole fun reads => by
    unfold literal at reads
    split at reads
    · cases reads
      exact ⟨[_], rfl, ⟨rfl⟩⟩
    · obtain ⟨-, same⟩ := Option.ite_none_right_eq_some.mp reads
      cases same
      exact ⟨[_], rfl, ⟨rfl⟩⟩
    · obtain ⟨-, same⟩ := Option.ite_none_right_eq_some.mp reads
      cases same
      exact ⟨[_, _], rfl, ⟨rfl⟩⟩
    · contradiction

theorem anyGroup_eq_some
    {row rest inside : List Token}
    {delimiter : Delimiter}
    (reads : anyGroup row = some ((delimiter, inside), rest)) :
    ∃ closing, row = .opening delimiter :: (inside ++ [.closing closing]) ++ rest ∧ IsWhole inside := by
  unfold anyGroup at reads
  split at reads
  · obtain ⟨_, split, same⟩ := Option.map_eq_some_iff.mp reads
    cases same
    obtain ⟨closing, rfl, level⟩ := isWhole_of_splitGroup split
    exact ⟨closing, by simp, ⟨level⟩⟩
  · contradiction

instance extends_anyGroup : Extends anyGroup anyGroup :=
  .of_whole fun {_ value _} reads => by
    obtain ⟨closing, rfl, whole⟩ := anyGroup_eq_some reads
    exact ⟨_, rfl, whole.group _ _⟩

end Single

/-! ### Readers put together -/

section Combined

variable
  {shallow deep : Parser α}
  {shallowNext deepNext : α → Parser β}

theorem Extends.bind
    (first : Extends shallow deep)
    (next : ∀ value, Extends (shallowNext value) (deepNext value)) :
    Extends (shallow >>= shallowNext) (deep >>= deepNext) := by
  constructor
  intro row value rest reads
  obtain ⟨read, between, reads, behind⟩ := bind_eq_some reads
  obtain ⟨same, taken, rfl, whole⟩ := first.answers reads
  obtain ⟨sameBehind, takenBehind, rfl, wholeBehind⟩ := (next read).answers behind
  refine ⟨?_, taken ++ takenBehind, (List.append_assoc ..).symm, whole.append wholeBehind⟩
  rw [bind_of_eq_some same, sameBehind]

instance extends_bind
    [Extends shallow deep]
    [∀ value, Extends (shallowNext value) (deepNext value)] :
    Extends (shallow >>= shallowNext) (deep >>= deepNext) :=
  .bind inferInstance inferInstance

instance extends_map [Extends shallow deep] (change : α → β) :
    Extends (change <$> shallow) (change <$> deep) :=
  inferInstanceAs (Extends (shallow >>= fun value => pure (change value)) (deep >>= fun value => pure (change value)))

theorem Extends.ite
    {condition : Prop}
    [Decidable condition]
    {shallowElse deepElse : Parser α}
    (holds : Extends shallow deep)
    (fails : Extends shallowElse deepElse) :
    Extends (if condition then shallow else shallowElse) (if condition then deep else deepElse) := by
  split
  · exact holds
  · exact fails

instance extends_ite
    {condition : Prop}
    [Decidable condition]
    {shallowElse deepElse : Parser α}
    [Extends shallow deep]
    [Extends shallowElse deepElse] :
    Extends (if condition then shallow else shallowElse) (if condition then deep else deepElse) :=
  .ite inferInstance inferInstance

instance extends_inside [extends_ : Extends shallow deep] (delimiter : Delimiter) :
    Extends (inside delimiter shallow) (inside delimiter deep) := by
  constructor
  intro row value rest reads
  obtain ⟨_, closing, rfl, found⟩ := inside_eq_some reads
  obtain ⟨same, taken, rfl, whole⟩ := extends_.answers found
  refine ⟨?_, .opening delimiter :: (taken ++ [.closing closing]), by simp, whole.group _ _⟩
  rw [inside, if_pos rfl, same]

/-- A part that does not look any deeper. -/
instance extends_attempt (part : Parser α) [extends_ : Extends part part] :
    Extends (attempt part) (attempt part) :=
  .of_whole fun reads => by
    unfold attempt at reads
    split at reads
    · next found =>
        cases reads
        exact (extends_.answers found).2
    · cases reads
      exact ⟨[], rfl, .nil⟩

instance extends_peek (test : Test) : Extends (peek test) (peek test) :=
  inferInstanceAs (Extends (get >>= fun row => pure (test row)) (get >>= fun row => pure (test row)))

instance extends_require (condition : Bool) : Extends (require condition) (require condition) := by
  unfold require
  infer_instance

instance extends_identifier : Extends identifier identifier := by
  unfold identifier
  infer_instance

instance extends_optionalWord (text : String) : Extends (optionalWord text) (optionalWord text) := by
  unfold optionalWord
  infer_instance

instance extends_optionalMarks (operator : String) :
    Extends (optionalMarks operator) (optionalMarks operator) := by
  unfold optionalMarks
  infer_instance

instance extends_optionalLifetime : Extends optionalLifetime optionalLifetime := by
  unfold optionalLifetime
  infer_instance

instance extends_readSince (start : List Token) : Extends (readSince start) (readSince start) := by
  unfold readSince
  infer_instance

instance extends_optionally [Extends shallow deep] (test : Test) :
    Extends (optionally test shallow) (optionally test deep) := by
  unfold optionally
  infer_instance

end Combined

/-! ### Loops -/

section Loops

variable
  {shallow deep : Parser α}
  [Extends shallow deep]

instance extends_whileFrom (test : Test) (fuel : Nat) :
    Extends (whileFrom test shallow fuel) (whileFrom test deep fuel) := by
  induction fuel with
  | zero | succ =>
      unfold whileFrom
      infer_instance

instance extends_repeatWhile (test : Test) :
    Extends (repeatWhile test shallow) (repeatWhile test deep) := by
  unfold repeatWhile
  infer_instance

instance extends_repeatToEnd : Extends (repeatToEnd shallow) (repeatToEnd deep) := by
  unfold repeatToEnd
  infer_instance

instance extends_separatedFrom (stop enough : Test) (separator : String) (fuel : Nat) :
    Extends (separatedFrom stop enough separator shallow fuel)
      (separatedFrom stop enough separator deep fuel) := by
  induction fuel with
  | zero | succ =>
      unfold separatedFrom
      infer_instance

instance extends_separatedTo (stop : Test) (separator : String) :
    Extends (separatedTo stop separator shallow) (separatedTo stop separator deep) := by
  unfold separatedTo
  infer_instance

instance extends_separatedWhile (stop : Test) (separator : String) :
    Extends (separatedWhile stop separator shallow) (separatedWhile stop separator deep) := by
  unfold separatedWhile
  infer_instance

instance extends_commaList : Extends (commaList shallow) (commaList deep) := by
  unfold commaList
  infer_instance

instance extends_commaListBehind (first : α) :
    Extends (commaListBehind first shallow) (commaListBehind first deep) := by
  unfold commaListBehind
  infer_instance

end Loops

end Parser

end Scaffold.Source
