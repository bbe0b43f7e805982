import Scaffold.Proofs.Source.Depth.Types

/-!
Contract: the readers of patterns and expressions over deeper readers.
-/

namespace Scaffold.Source.Grammar

open Source.Parser

set_option synthInstance.maxSize 2000

section

variable
  {shallow deep : Grammar}
  [Deepens shallow deep]

/-! ### Patterns -/

instance extends_alternativesBehind (leading : Bool) (first : Node .pattern) :
    Extends (alternativesBehind shallow leading first) (alternativesBehind deep leading first) := by
  unfold alternativesBehind
  infer_instance

instance extends_alternatives : Extends (alternatives shallow) (alternatives deep) := by
  unfold alternatives
  infer_instance

instance extends_constBlock : Extends (constBlock shallow) (constBlock deep) := by
  unfold constBlock
  infer_instance

instance extends_rangeBound : Extends (rangeBound shallow) (rangeBound deep) := by
  unfold rangeBound
  infer_instance

instance extends_patternDots : Extends patternDots patternDots := by
  unfold patternDots
  infer_instance

instance extends_rangeBehind (start : Node .expr) :
    Extends (rangeBehind shallow start) (rangeBehind deep start) := by
  unfold rangeBehind
  infer_instance

instance extends_constPattern : Extends (constPattern shallow) (constPattern deep) := by
  unfold constPattern
  refine .bind inferInstance fun bound => ?_
  split <;> infer_instance

instance extends_openRange : Extends (openRange shallow) (openRange deep) := by
  unfold openRange
  dsimp only
  refine .bind inferInstance fun closed => .ite ?_ ?_
  all_goals
    refine .bind inferInstance fun _ => ?_
    repeat' first | infer_instance | refine .bind inferInstance fun _ => ?_ | split

instance extends_member : Extends member member := by
  refine .of_whole fun {row value rest} reads => ?_
  unfold member at reads
  obtain ⟨ahead, _, got, reads⟩ := bind_eq_some reads
  cases got
  cases row with
  | nil => exact (extends_identifier.answers reads).2
  | cons first behind =>
      cases first with
      | literal text =>
          dsimp only at reads
          cases position : position? text.toList with
          | none =>
              rw [position] at reads
              contradiction
          | some index =>
              rw [position] at reads
              cases reads
              exact ⟨[.literal text], rfl, ⟨rfl⟩⟩
      | word | mark | opening | closing => exact (extends_identifier.answers reads).2

instance extends_memberPattern (attributes : Node (.many .attribute)) :
    Extends (memberPattern shallow attributes) (memberPattern deep attributes) := by
  unfold memberPattern
  dsimp only
  infer_instance

instance extends_patternFields (fuel : Nat) :
    Extends (patternFields shallow fuel) (patternFields deep fuel) := by
  induction fuel with
  | zero | succ =>
      unfold patternFields
      infer_instance

instance extends_patternFromPath : Extends (patternFromPath shallow) (patternFromPath deep) := by
  unfold patternFromPath
  refine .bind inferInstance fun read => .bind inferInstance fun bang => ?_
  split <;> infer_instance

instance extends_namePattern : Extends (namePattern shallow) (namePattern deep) := by
  unfold namePattern
  dsimp only
  infer_instance

instance extends_parenthesizedPattern :
    Extends (parenthesizedPattern shallow) (parenthesizedPattern deep) := by
  unfold parenthesizedPattern
  refine .bind inferInstance fun list => ?_
  split <;> infer_instance

instance extends_slicePattern : Extends (slicePattern shallow) (slicePattern deep) := by
  unfold slicePattern
  infer_instance

instance extends_readPattern : Extends (readPattern shallow) (readPattern deep) := by
  unfold readPattern
  infer_instance

/-! ### Operators -/

instance extends_rightOperandFrom (allowStruct : Bool) (precedence : Precedence) (fuel : Nat) (operand : Node .expr) :
    Extends (rightOperandFrom shallow allowStruct precedence fuel operand)
      (rightOperandFrom deep allowStruct precedence fuel operand) := by
  induction fuel generalizing operand with
  | zero | succ =>
      unfold rightOperandFrom
      infer_instance

instance extends_rightOperand (allowStruct : Bool) (precedence : Precedence) :
    Extends (rightOperand shallow allowStruct precedence)
      (rightOperand deep allowStruct precedence) := by
  unfold rightOperand
  infer_instance

instance extends_rangeDots : Extends rangeDots rangeDots := by
  unfold rangeDots
  infer_instance

instance extends_rangeFrom (start : Node (.maybe .expr)) (allowStruct : Bool) :
    Extends (rangeFrom shallow start allowStruct) (rangeFrom deep start allowStruct) := by
  unfold rangeFrom
  infer_instance

instance extends_operatorsFrom (allowStruct : Bool) (base : Precedence) (fuel : Nat) (left : Node .expr) :
    Extends (operatorsFrom shallow allowStruct base fuel left)
      (operatorsFrom deep allowStruct base fuel left) := by
  induction fuel generalizing left with
  | zero => exact extends_refuse
  | succ =>
      unfold operatorsFrom
      refine .bind inferInstance fun ahead => .ite inferInstance ?_
      split <;> infer_instance

instance extends_readOperators (left : Node .expr) (allowStruct : Bool) (base : Precedence) :
    Extends (readOperators shallow left allowStruct base)
      (readOperators deep left allowStruct base) := by
  unfold readOperators
  infer_instance

instance extends_readExpr (allowStruct : Bool) :
    Extends (readExpr shallow allowStruct) (readExpr deep allowStruct) := by
  unfold readExpr
  infer_instance

/-! ### Blocks, conditionals and loops -/

instance extends_label : Extends label label := by
  unfold label
  infer_instance

instance extends_conditional (fuel : Nat) :
    Extends (conditional shallow fuel) (conditional deep fuel) := by
  induction fuel with
  | zero | succ =>
      unfold conditional
      infer_instance

instance extends_ifExpr : Extends (ifExpr shallow) (ifExpr deep) := by
  unfold ifExpr
  infer_instance

instance extends_whileExpr (name : Option String) :
    Extends (whileExpr shallow name) (whileExpr deep name) := by
  unfold whileExpr
  infer_instance

instance extends_forExpr (name : Option String) :
    Extends (forExpr shallow name) (forExpr deep name) := by
  unfold forExpr
  infer_instance

instance extends_loopExpr (name : Option String) :
    Extends (loopExpr shallow name) (loopExpr deep name) := by
  unfold loopExpr
  infer_instance

instance extends_labelledExpr : Extends (labelledExpr shallow) (labelledExpr deep) := by
  unfold labelledExpr
  infer_instance

instance extends_uncheckedExpr : Extends (uncheckedExpr shallow) (uncheckedExpr deep) := by
  unfold uncheckedExpr
  infer_instance

instance extends_attemptExpr : Extends (attemptExpr shallow) (attemptExpr deep) := by
  unfold attemptExpr
  infer_instance

instance extends_asyncExpr : Extends (asyncExpr shallow) (asyncExpr deep) := by
  unfold asyncExpr
  infer_instance

/-! ### What is applied to an operand -/

instance extends_memberAccess (expr : Node .expr) :
    Extends (memberAccess shallow expr) (memberAccess deep expr) := by
  unfold memberAccess
  dsimp only
  infer_instance

omit [Deepens shallow deep] in
theorem exists_of_floatAhead? {row : List Token} {text : String} (found : floatAhead? row = some text) :
    ∃ behind, row = .literal text :: behind := by
  unfold floatAhead? at found
  split at found
  · obtain ⟨-, same⟩ := Option.ite_none_right_eq_some.mp found
    cases same
    exact ⟨_, rfl⟩
  · contradiction

instance extends_membersBehindDot (expr : Node .expr) :
    Extends (membersBehindDot shallow expr) (membersBehindDot deep expr) := by
  constructor
  intro row value rest reads
  unfold membersBehindDot at reads ⊢
  obtain ⟨ahead, _, got, reads⟩ := bind_eq_some reads
  cases got
  rw [bind_of_eq_some rfl]
  cases found : floatAhead? row with
  | none =>
      rw [found] at reads
      exact (extends_memberAccess expr).answers reads
  | some text =>
      rw [found] at reads
      cases chain : memberChain? text with
      | none =>
          simp only [chain] at reads
          contradiction
      | some members =>
          simp only [chain] at reads ⊢
          obtain ⟨behind, rfl⟩ := exists_of_floatAhead? found
          let inner := members.1.foldl (fun inner name => Node.fieldExpr inner name) expr
          have extends_ : Extends
              (if members.2 then memberAccess shallow inner else pure inner)
              (if members.2 then memberAccess deep inner else pure inner) := inferInstance
          obtain ⟨same, taken, rfl, whole⟩ := extends_.answers reads
          exact ⟨same, .literal text :: taken, rfl, ⟨whole.level⟩⟩

instance extends_applicationsFrom (fuel : Nat) (expr : Node .expr) :
    Extends (applicationsFrom shallow fuel expr) (applicationsFrom deep fuel expr) := by
  induction fuel generalizing expr with
  | zero | succ =>
      unfold applicationsFrom
      infer_instance

instance extends_applications (expr : Node .expr) :
    Extends (applications shallow expr) (applications deep expr) := by
  unfold applications
  infer_instance

instance extends_statementExpr : Extends (statementExpr shallow) (statementExpr deep) := by
  unfold statementExpr
  dsimp only
  infer_instance

instance extends_matchArm : Extends (matchArm shallow) (matchArm deep) := by
  unfold matchArm
  dsimp only
  infer_instance

instance extends_matchExpr : Extends (matchExpr shallow) (matchExpr deep) := by
  unfold matchExpr
  infer_instance

/-! ### Closures, jumps and literals of structures -/

instance extends_closureInput : Extends (closureInput shallow) (closureInput deep) := by
  unfold closureInput
  refine .bind inferInstance fun attributes => .bind inferInstance fun pattern =>
    .bind inferInstance fun typed => .ite inferInstance ?_
  split <;> infer_instance

instance extends_closureExpr (allowStruct : Bool) :
    Extends (closureExpr shallow allowStruct) (closureExpr deep allowStruct) := by
  unfold closureExpr
  infer_instance

instance extends_jumpValue (allowStruct : Bool) :
    Extends (jumpValue shallow allowStruct) (jumpValue deep allowStruct) := by
  unfold jumpValue
  infer_instance

instance extends_breakExpr (allowStruct : Bool) :
    Extends (breakExpr shallow allowStruct) (breakExpr deep allowStruct) := by
  unfold breakExpr
  infer_instance

instance extends_memberValue : Extends (memberValue shallow) (memberValue deep) := by
  unfold memberValue
  infer_instance

instance extends_literalFields (fuel : Nat) :
    Extends (literalFields shallow fuel) (literalFields deep fuel) := by
  induction fuel with
  | zero | succ =>
      unfold literalFields
      infer_instance

instance extends_exprFromPath (allowStruct : Bool) :
    Extends (exprFromPath shallow allowStruct) (exprFromPath deep allowStruct) := by
  unfold exprFromPath
  refine .bind inferInstance fun read => .bind inferInstance fun bang => ?_
  split <;> infer_instance

instance extends_parenthesizedExpr : Extends (parenthesizedExpr shallow) (parenthesizedExpr deep) := by
  unfold parenthesizedExpr
  refine .bind inferInstance fun list => ?_
  split <;> infer_instance

instance extends_bracketedExpr : Extends (bracketedExpr shallow) (bracketedExpr deep) := by
  unfold bracketedExpr
  infer_instance

instance extends_letExpr (allowStruct : Bool) :
    Extends (letExpr shallow allowStruct) (letExpr deep allowStruct) := by
  unfold letExpr
  infer_instance

instance extends_atom (allowStruct : Bool) :
    Extends (atom shallow allowStruct) (atom deep allowStruct) := by
  unfold atom
  infer_instance

instance extends_borrowOperator : Extends borrowOperator borrowOperator := by
  unfold borrowOperator
  infer_instance

instance extends_readOperand (allowStruct : Bool) :
    Extends (readOperand shallow allowStruct) (readOperand deep allowStruct) := by
  unfold readOperand
  refine .bind inferInstance fun start => .bind inferInstance fun attributes =>
    .bind inferInstance fun borrows => .ite inferInstance <|
    .bind inferInstance fun dereferences => .ite inferInstance <|
    .bind inferInstance fun inverts => .ite inferInstance <|
    .bind inferInstance fun negates => .ite inferInstance <|
    .bind inferInstance fun expr => .bind inferInstance fun applied =>
    .bind inferInstance fun _ => ?_
  split <;> infer_instance

end

end Scaffold.Source.Grammar
