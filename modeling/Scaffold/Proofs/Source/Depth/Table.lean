import Scaffold.Proofs.Source.Depth.Items
import Scaffold.Source.Reading

/-!
Contract: the tables of readers of different depths.

Owns:
- the readers of statements over deeper readers;
- that a deeper table answers as a shallower one does, and that all its readers take whole rows;
- that a text is read alike with any depth that is enough.
-/

namespace Scaffold.Source.Grammar

open Source.Parser

set_option synthInstance.maxSize 2000

section

variable
  {shallow deep : Grammar}
  [Deepens shallow deep]

/-! ### Statements -/

instance extends_letStatement (attributes : Node (.many .attribute)) :
    Extends (letStatement shallow attributes) (letStatement deep attributes) := by
  unfold letStatement
  dsimp only
  refine .bind inferInstance fun _ => .bind inferInstance fun bare =>
    .bind inferInstance fun typed => .ite ?_ ?_
  all_goals infer_instance

instance extends_exprStatement (attributes : Node (.many .attribute)) :
    Extends (exprStatement shallow attributes) (exprStatement deep attributes) := by
  unfold exprStatement
  refine .bind inferInstance fun bare => .bind inferInstance fun semicolon => ?_
  dsimp only
  split <;> infer_instance

/-- The path of a macro is a whole row in front of its bang. -/
theorem exists_of_macroAhead
    {row behind : List Token}
    {path : PlainPath}
    (ahead : macroAhead row = .statement path behind) :
    ∃ taken, row = taken ++ behind ∧ Token.IsWhole taken := by
  unfold macroAhead at ahead
  split at ahead
  · next reads =>
      obtain ⟨-, whole⟩ := extends_plainPath.answers reads
      split at ahead
      · contradiction
      · split at ahead
        · contradiction
        · split at ahead
          · cases ahead
            exact whole
          · contradiction
  · contradiction

instance extends_statement : Extends (statement shallow) (statement deep) := by
  unfold statement
  refine .bind inferInstance fun start => .bind inferInstance fun attributes => ?_
  constructor
  intro row value rest reads
  obtain ⟨ahead, _, got, reads⟩ := bind_eq_some reads
  cases got
  rw [bind_of_eq_some rfl]
  cases found : macroAhead row with
  | statement path behind =>
      rw [found] at reads
      obtain ⟨taken, rfl, whole⟩ := exists_of_macroAhead found
      let invoked : Parser (Node .statement) := do
        let invocation ← invocationBehind path
        return .invocationStatement attributes invocation (← optionalMarks ";")
      have extends_ : Extends invoked invoked := inferInstanceAs (Extends (_ >>= _) (_ >>= _))
      obtain ⟨same, takenBehind, rfl, wholeBehind⟩ := extends_.answers reads
      exact ⟨same, taken ++ takenBehind, (List.append_assoc ..).symm, whole.append wholeBehind⟩
  | item =>
      rw [found] at reads
      exact (extends_bind : Extends (itemBehind shallow start attributes >>= _) _).answers reads
  | none =>
      rw [found] at reads
      exact (extends_ite : Extends (if atWord "let" row then letStatement shallow attributes else _) _).answers reads

instance extends_statementsFrom (fuel : Nat) :
    Extends (statementsFrom shallow fuel) (statementsFrom deep fuel) := by
  induction fuel with
  | zero | succ =>
      unfold statementsFrom
      infer_instance

instance extends_readStatements : Extends (readStatements shallow) (readStatements deep) := by
  unfold readStatements
  infer_instance

/-! ### Tables -/

/-- What stands one level deeper decides. -/
instance deepens_deepen : Deepens (deepen shallow) (deepen deep) where
  type _ := extends_readType _
  expr _ := extends_readExpr _
  operand _ := extends_readOperand _
  operators _ _ _ := extends_readOperators _ _ _
  matching := extends_matchExpr
  pattern := extends_readPattern
  statements := extends_readStatements
  item := inferInstanceAs (Extends (readItem shallow) (readItem deep))
  useTree _ := extends_readUseTree _

end

theorem deepens_empty (deep : Grammar) : Deepens .empty deep where
  type _ := .of_refuse _
  expr _ := .of_refuse _
  operand _ := .of_refuse _
  operators _ _ _ := .of_refuse _
  matching := .of_refuse _
  pattern := .of_refuse _
  statements := .of_refuse _
  item := .of_refuse _
  useTree _ := .of_refuse _

/-- A deeper table answers wherever a shallower one does, and alike. -/
theorem deepens_toDepth {less more : Nat} (deeper : less ≤ more) : Deepens (toDepth less) (toDepth more) := by
  induction less generalizing more with
  | zero => exact deepens_empty _
  | succ less inductionHypothesis =>
      obtain ⟨more, rfl⟩ := Nat.exists_eq_succ_of_ne_zero (Nat.ne_zero_of_lt deeper)
      have := inductionHypothesis (Nat.le_of_succ_le_succ deeper)
      exact deepens_deepen

instance deepens_self (depth : Nat) : Deepens (toDepth depth) (toDepth depth) :=
  deepens_toDepth (Nat.le_refl depth)

end Scaffold.Source.Grammar
