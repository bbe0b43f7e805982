import Scaffold.Proofs.Source.Depth.Names

/-!
Contract: the readers of paths, bounds, generics and types over deeper readers.
-/

namespace Scaffold.Source.Grammar

open Source.Parser

set_option synthInstance.maxSize 2000

section

variable
  {shallow deep : Grammar}
  [Deepens shallow deep]

/-! ### Blocks and returned types -/

instance extends_plainBlock : Extends (plainBlock shallow) (plainBlock deep) := by
  unfold plainBlock
  infer_instance

instance extends_attributedBlock : Extends (attributedBlock shallow) (attributedBlock deep) := by
  unfold attributedBlock
  infer_instance

instance extends_constValue : Extends (constValue shallow) (constValue deep) := by
  unfold constValue
  infer_instance

instance extends_returnType (allowPlus : Bool) :
    Extends (returnType shallow allowPlus) (returnType deep allowPlus) := by
  unfold returnType
  infer_instance

instance extends_callArguments : Extends (callArguments shallow) (callArguments deep) := by
  unfold callArguments
  infer_instance

/-! ### Bounds -/

instance extends_captureBound : Extends captureBound captureBound := by
  unfold captureBound
  infer_instance

instance extends_boundConstness : Extends boundConstness boundConstness := by
  unfold boundConstness
  infer_instance

section Bound

variable
  {shallowPath deepPath : Parser PathParts}
  {shallowBinder deepBinder : Parser (Node .binder)}
  [Extends shallowPath deepPath]
  [Extends shallowBinder deepBinder]

instance extends_traitBound (rules : BoundRules) (parenthesized : Bool) :
    Extends (traitBound shallow shallowPath shallowBinder rules parenthesized)
      (traitBound deep deepPath deepBinder rules parenthesized) := by
  unfold traitBound
  dsimp only
  infer_instance

instance extends_boundWith (rules : BoundRules) :
    Extends (boundWith shallow shallowPath shallowBinder rules)
      (boundWith deep deepPath deepBinder rules) := by
  unfold boundWith
  refine .bind inferInstance fun isLifetime => .ite inferInstance ?_
  refine .bind inferInstance fun captures => .ite inferInstance ?_
  refine .bind inferInstance fun start => .bind inferInstance fun grouped => ?_
  dsimp only
  refine .ite (.bind inferInstance fun read => ?_) (.bind inferInstance fun read => ?_)
  all_goals split <;> infer_instance

end Bound

/-! ### Paths and generic parameters -/

section Generic

variable
  {shallowBound deepBound : Parser (Node .bound)}
  [Extends shallowBound deepBound]

instance extends_genericArgument :
    Extends (genericArgument shallow shallowBound) (genericArgument deep deepBound) := by
  unfold genericArgument
  refine .bind inferInstance fun isLifetime => .ite inferInstance ?_
  refine .bind inferInstance fun isConst => .ite inferInstance ?_
  refine .bind inferInstance fun type => ?_
  split <;> infer_instance

instance extends_angleArguments :
    Extends (angleArguments shallow shallowBound) (angleArguments deep deepBound) := by
  unfold angleArguments
  infer_instance

instance extends_pathSegment (amongExprs : Bool) :
    Extends (pathSegment shallow shallowBound amongExprs) (pathSegment deep deepBound amongExprs) := by
  unfold pathSegment
  dsimp only
  infer_instance

instance extends_pathSegments (amongExprs : Bool) :
    Extends (pathSegments shallow shallowBound amongExprs)
      (pathSegments deep deepBound amongExprs) := by
  unfold pathSegments
  infer_instance

instance extends_pathWith (amongExprs : Bool) :
    Extends (pathWith shallow shallowBound amongExprs) (pathWith deep deepBound amongExprs) := by
  unfold pathWith
  infer_instance

instance extends_lifetimeParameter (attributes : Node (.many .attribute)) :
    Extends (lifetimeParameter attributes) (lifetimeParameter attributes) := by
  unfold lifetimeParameter
  infer_instance

instance extends_typeParameter (attributes : Node (.many .attribute)) :
    Extends (typeParameter shallow shallowBound attributes)
      (typeParameter deep deepBound attributes) := by
  unfold typeParameter
  dsimp only
  infer_instance

instance extends_constParameter (attributes : Node (.many .attribute)) :
    Extends (constParameter shallow attributes) (constParameter deep attributes) := by
  unfold constParameter
  dsimp only
  infer_instance

instance extends_genericParameter :
    Extends (genericParameter shallow shallowBound) (genericParameter deep deepBound) := by
  unfold genericParameter
  infer_instance

instance extends_binderWith :
    Extends (binderWith shallow shallowBound) (binderWith deep deepBound) := by
  unfold binderWith
  infer_instance

end Generic

/-! ### Bounds, paths and binders, tied -/

instance extends_boundTo (rules : BoundRules) (depth : Nat) :
    Extends (boundTo shallow rules depth) (boundTo deep rules depth) := by
  induction depth generalizing rules with
  | zero | succ =>
      unfold boundTo
      infer_instance

instance extends_bound (rules : BoundRules) : Extends (bound shallow rules) (bound deep rules) := by
  unfold bound
  infer_instance

instance extends_path (amongExprs : Bool) : Extends (path shallow amongExprs) (path deep amongExprs) := by
  unfold path
  infer_instance

instance extends_binder : Extends (binder shallow) (binder deep) := by
  unfold binder
  infer_instance

instance extends_qualifiablePath (amongExprs : Bool) :
    Extends (qualifiablePath shallow amongExprs) (qualifiablePath deep amongExprs) := by
  unfold qualifiablePath
  dsimp only
  infer_instance

/-! ### Types -/

instance extends_boundsFrom (rules : BoundRules) (allowPlus : Bool) (fuel : Nat) :
    Extends (boundsFrom shallow rules allowPlus fuel) (boundsFrom deep rules allowPlus fuel) := by
  induction fuel with
  | zero | succ =>
      unfold boundsFrom
      infer_instance

instance extends_bounds (rules : BoundRules) (allowPlus : Bool) :
    Extends (bounds shallow rules allowPlus) (bounds deep rules allowPlus) := by
  unfold bounds
  infer_instance

instance extends_objectBounds (spelledDyn allowPlus : Bool) :
    Extends (objectBounds shallow spelledDyn allowPlus) (objectBounds deep spelledDyn allowPlus) := by
  unfold objectBounds
  infer_instance

instance extends_objectBehind (first : Node .bound) :
    Extends (objectBehind shallow first) (objectBehind deep first) := by
  unfold objectBehind
  infer_instance

instance extends_parenthesizedType (allowPlus : Bool) :
    Extends (parenthesizedType shallow allowPlus) (parenthesizedType deep allowPlus) := by
  unfold parenthesizedType
  refine .bind inferInstance fun start => .ite inferInstance (.ite inferInstance (.ite ?_ ?_))
  · refine .bind inferInstance fun first => ?_
    split <;> infer_instance
  · refine .bind inferInstance fun list => .ite inferInstance ?_
    split
    · refine .bind inferInstance fun plus => ?_
      split <;> infer_instance
    · infer_instance

instance extends_convention : Extends convention convention := by
  unfold convention
  infer_instance

instance extends_inputName : Extends inputName inputName := by
  unfold inputName
  infer_instance

instance extends_functionTypeInput (attributes : Node (.many .attribute)) (isFirst : Bool) :
    Extends (functionTypeInput shallow attributes isFirst)
      (functionTypeInput deep attributes isFirst) := by
  unfold functionTypeInput
  dsimp only
  infer_instance

instance extends_functionTypeInputs (isFirst : Bool) (fuel : Nat) :
    Extends (functionTypeInputs shallow isFirst fuel) (functionTypeInputs deep isFirst fuel) := by
  induction fuel generalizing isFirst with
  | zero | succ =>
      unfold functionTypeInputs
      infer_instance

instance extends_functionType (outer : Option (Node .binder)) :
    Extends (functionType shallow outer) (functionType deep outer) := by
  unfold functionType
  infer_instance

instance extends_typeFromPath (outer : Option (Node .binder)) (allowPlus : Bool) :
    Extends (typeFromPath shallow outer allowPlus) (typeFromPath deep outer allowPlus) := by
  unfold typeFromPath
  refine .bind inferInstance fun read => ?_
  cases read with
  | qualified => infer_instance
  | simple parts =>
      refine .bind inferInstance fun bang => ?_
      dsimp only
      split <;> infer_instance

instance extends_bracketedType : Extends (bracketedType shallow) (bracketedType deep) := by
  unfold bracketedType
  infer_instance

instance extends_pointerType : Extends (pointerType shallow) (pointerType deep) := by
  unfold pointerType
  dsimp only
  infer_instance

instance extends_referenceType : Extends (referenceType shallow) (referenceType deep) := by
  unfold referenceType
  infer_instance

instance extends_dynType (start : List Token) (allowPlus : Bool) :
    Extends (dynType shallow start allowPlus) (dynType deep start allowPlus) := by
  unfold dynType
  infer_instance

instance extends_implType (allowPlus : Bool) :
    Extends (implType shallow allowPlus) (implType deep allowPlus) := by
  unfold implType
  infer_instance

instance extends_builtin : Extends builtin builtin := by
  unfold builtin
  infer_instance

instance extends_readType (allowPlus : Bool) :
    Extends (readType shallow allowPlus) (readType deep allowPlus) := by
  unfold readType
  infer_instance

/-! ### Generics -/

instance extends_angleParameters : Extends (angleParameters shallow) (angleParameters deep) := by
  unfold angleParameters
  refine .bind inferInstance fun _ =>
    .ite (.bind (@extends_separatedTo _ _ _ ?_ _ _) inferInstance) inferInstance
  infer_instance

instance extends_predicate : Extends (predicate shallow) (predicate deep) := by
  unfold predicate
  infer_instance

instance extends_conditions : Extends (conditions shallow) (conditions deep) := by
  unfold conditions
  infer_instance

end

end Scaffold.Source.Grammar
