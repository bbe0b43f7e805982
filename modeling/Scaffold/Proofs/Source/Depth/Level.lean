import Mathlib
import Scaffold.Proofs.Source.Row

/-!
Contract: rows of tokens that leave no group open and close none but their own.

Owns:
- how many groups are open behind a row, whatever delimiters they have;
- whole rows, closed under being put together and under being put into a group.

The delimiters themselves do not count: a group ends at the closing token that balances its opening
one, as for the readers of tokens.
-/

namespace Scaffold.Source.Token

/-- How many groups are open behind a row, where `level` are open in front of it; nothing if the row
closes one that was never opened. -/
def levelBehind (level : Nat) : List Token → Option Nat
  | [] => some level
  | .opening _ :: rest => levelBehind (level + 1) rest
  | .closing _ :: rest =>
      match level with
      | 0 => none
      | outer + 1 => levelBehind outer rest
  | _ :: rest => levelBehind level rest

/-- Every group in the row is opened and closed in it. -/
structure IsWhole (row : List Token) : Prop where
  level : levelBehind 0 row = some 0

section

variable
  {level between after : Nat}
  {row rest : List Token}

theorem levelBehind_append :
    levelBehind level (row ++ rest) = (levelBehind level row).bind fun between => levelBehind between rest := by
  fun_induction levelBehind level row with
  | case1 => rfl
  | case2 _ _ _ inductionHypothesis | case4 _ _ _ inductionHypothesis =>
      rw [List.cons_append, levelBehind, inductionHypothesis]
  | case3 => rfl
  | case5 => simp_all [levelBehind]

/-- More groups may be open in front of a row. -/
theorem levelBehind_frame (opened : levelBehind level row = some after) (outer : Nat) :
    levelBehind (level + outer) row = some (after + outer) := by
  fun_induction levelBehind level row with
  | case1 =>
      cases opened
      rfl
  | case2 level _ rest inductionHypothesis =>
      rw [levelBehind, Nat.add_right_comm]
      exact inductionHypothesis opened
  | case3 => contradiction
  | case4 _ rest level inductionHypothesis =>
      rw [Nat.succ_add, levelBehind]
      exact inductionHypothesis opened
  | case5 => simp_all [levelBehind]

end

namespace IsWhole

variable {row rest : List Token}

theorem nil : IsWhole [] :=
  ⟨rfl⟩

theorem append (first : IsWhole row) (second : IsWhole rest) : IsWhole (row ++ rest) :=
  ⟨by rw [levelBehind_append, first.level, Option.bind_some, second.level]⟩

theorem word (text : String) : IsWhole [.word text] :=
  ⟨rfl⟩

theorem group (inside : IsWhole row) (opening closing : Delimiter) :
    IsWhole (.opening opening :: (row ++ [.closing closing])) := by
  constructor
  show levelBehind 1 (row ++ _) = _
  rw [levelBehind_append, ← Nat.zero_add 1, levelBehind_frame inside.level 1]
  rfl

end IsWhole

end Scaffold.Source.Token
