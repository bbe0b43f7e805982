import Scaffold.Proofs.Source.Depth.Ending
import Scaffold.Proofs.Source.Depth.Expressions
import Scaffold.Source.Grammar.Items

/-!
Contract: the readers of items over deeper readers.

Owns:
- that every item reads up to where an entry ends.
-/

namespace Scaffold.Source.Grammar

open Source.Parser

set_option synthInstance.maxSize 2000

section

variable
  {shallow deep : Grammar}
  [Deepens shallow deep]

/-! ### Signatures -/

instance extends_selfParameter (attributes : Node (.many .attribute)) :
    Extends (selfParameter shallow attributes) (selfParameter deep attributes) := by
  unfold selfParameter
  dsimp only
  infer_instance

instance extends_parameter (attributes : Node (.many .attribute)) :
    Extends (parameter shallow attributes) (parameter deep attributes) := by
  unfold parameter
  infer_instance

instance extends_parametersFrom (isFirst : Bool) (fuel : Nat) :
    Extends (parametersFrom shallow isFirst fuel) (parametersFrom deep isFirst fuel) := by
  induction fuel generalizing isFirst with
  | zero | succ =>
      unfold parametersFrom
      infer_instance

instance extends_signatureWith (allowSafe : Bool) :
    Extends (signatureWith shallow allowSafe) (signatureWith deep allowSafe) := by
  unfold signatureWith
  dsimp only
  infer_instance

instance extends_signature : Extends (signature shallow) (signature deep) := by
  unfold signature
  infer_instance

/-! ### Data -/

section Fields

variable
  {shallowFields deepFields : Parser (Node .fields)}
  [Extends shallowFields deepFields]

instance extends_unnamedFieldType :
    Extends (unnamedFieldType shallow shallowFields) (unnamedFieldType deep deepFields) := by
  unfold unnamedFieldType
  infer_instance

instance extends_namedFieldWith :
    Extends (namedFieldWith shallow shallowFields) (namedFieldWith deep deepFields) := by
  unfold namedFieldWith
  infer_instance

end Fields

instance ends_namedFieldsTo (fuel : Nat) :
    Ends (namedFieldsTo shallow fuel) (namedFieldsTo deep fuel) := by
  induction fuel with
  | zero | succ =>
      unfold namedFieldsTo
      infer_instance

instance ends_namedFields : Ends (namedFields shallow) (namedFields deep) := by
  unfold namedFields
  infer_instance

instance extends_positionalFields : Extends (positionalFields shallow) (positionalFields deep) := by
  unfold positionalFields
  infer_instance

instance extends_variant : Extends (variant shallow) (variant deep) := by
  unfold variant
  dsimp only
  infer_instance

instance ends_structBody : Ends (structBody shallow) (structBody deep) := by
  unfold structBody
  infer_instance

/-! ### Imports -/

instance extends_useTrees (allowRoot : Bool) (fuel : Nat) :
    Extends (useTrees shallow allowRoot fuel) (useTrees deep allowRoot fuel) := by
  induction fuel with
  | zero => exact extends_refuse
  | succ =>
      unfold useTrees
      refine .bind inferInstance fun ends => .ite inferInstance ?_
      dsimp only
      split
      all_goals
        refine .bind inferInstance fun fromRoot => .bind inferInstance fun head =>
          .bind inferInstance fun last => .ite ?_ ?_
        · split <;> infer_instance
        · refine .bind inferInstance fun _ => .bind inferInstance fun tail => ?_
          split <;> infer_instance

instance extends_readUseTree (allowRoot : Bool) :
    Extends (readUseTree shallow allowRoot) (readUseTree deep allowRoot) := by
  unfold readUseTree
  infer_instance

/-! ### Items shared by modules, traits, implementations and foreign blocks -/

instance ends_attributedBlock : Ends (attributedBlock shallow) (attributedBlock deep) := by
  unfold attributedBlock
  infer_instance

instance stays_verbatim (start : ItemStart) : Stays (verbatim start) (verbatim start) := by
  unfold verbatim
  infer_instance

instance ends_constParts : Ends (constParts shallow) (constParts deep) := by
  unfold constParts
  dsimp only
  infer_instance

instance ends_typeParts (place : ConditionsPlace) :
    Ends (typeParts shallow place) (typeParts deep place) := by
  unfold typeParts
  dsimp only
  infer_instance

instance ends_memberInvocation (attributes : Node (.many .attribute)) :
    Ends (memberInvocation attributes) (memberInvocation attributes) := by
  unfold memberInvocation
  refine .delimited endsInBraces_invocation (fun invocation other => ?_) fun invocation braces => ?_
  · rw [if_pos (by simpa using other)]
    infer_instance
  · rw [if_neg (by simpa using braces)]
    infer_instance

/-! ### Items of traits, implementations and foreign blocks -/

instance ends_traitMethod (attributes : Node (.many .attribute)) :
    Ends (traitMethod shallow attributes) (traitMethod deep attributes) := by
  unfold traitMethod
  infer_instance

instance ends_traitMember : Ends (traitMember shallow) (traitMember deep) := by
  unfold traitMember
  dsimp only
  infer_instance

instance ends_implMember : Ends (implMember shallow) (implMember deep) := by
  unfold implMember
  dsimp only
  refine .behind inferInstance fun tokens => .behind inferInstance fun attributes =>
    .behind inferInstance fun access => .behind inferInstance fun defaultAhead => .ite ?_ ?_
  all_goals
    refine .behind inferInstance fun isDefault => .behind inferInstance fun ahead =>
      .ite inferInstance <| .ite (.last inferInstance fun constant => ?_) <|
      .ite (.last inferInstance fun type => ?_) inferInstance
    all_goals split <;> infer_instance

instance ends_foreignFunction (start : ItemStart) :
    Ends (foreignFunction shallow start) (foreignFunction deep start) := by
  unfold foreignFunction
  dsimp only
  infer_instance

instance ends_foreignStatic (start : ItemStart) :
    Ends (foreignStatic shallow start) (foreignStatic deep start) := by
  unfold foreignStatic
  dsimp only
  infer_instance

instance ends_foreignMember : Ends (foreignMember shallow) (foreignMember deep) := by
  unfold foreignMember
  dsimp only
  infer_instance

/-! ### Items of modules -/

instance ends_itemBlock
    {shallowMember deepMember : Parser (Node .item)}
    [Extends shallowMember deepMember] :
    Ends (itemBlock shallow shallowMember) (itemBlock deep deepMember) := by
  unfold itemBlock
  infer_instance

instance ends_functionItem (start : ItemStart) :
    Ends (functionItem shallow start) (functionItem deep start) := by
  unfold functionItem
  infer_instance

instance ends_crateItem (start : ItemStart) : Ends (crateItem start) (crateItem start) := by
  unfold crateItem
  dsimp only
  infer_instance

instance ends_foreignItem (start : ItemStart) :
    Ends (foreignItem shallow start) (foreignItem deep start) := by
  unfold foreignItem
  refine .behind inferInstance fun _ => .behind inferInstance fun isUnchecked =>
    .behind inferInstance fun linkage => ?_
  split <;> infer_instance

instance ends_useItem (start : ItemStart) :
    Ends (useItem shallow start) (useItem deep start) := by
  unfold useItem
  refine .behind inferInstance fun _ => .behind inferInstance fun leading =>
    .behind inferInstance fun tree => .last inferInstance fun _ => ?_
  split <;> infer_instance

instance ends_staticItem (start : ItemStart) :
    Ends (staticItem shallow start) (staticItem deep start) := by
  unfold staticItem
  infer_instance

instance ends_constItem (start : ItemStart) :
    Ends (constItem shallow start) (constItem deep start) := by
  unfold constItem
  refine .last inferInstance fun parts => ?_
  split <;> infer_instance

instance ends_moduleItem (start : ItemStart) :
    Ends (moduleItem shallow start) (moduleItem deep start) := by
  unfold moduleItem
  dsimp only
  infer_instance

instance ends_typeItem (start : ItemStart) :
    Ends (typeItem shallow start) (typeItem deep start) := by
  unfold typeItem
  refine .last inferInstance fun parts => ?_
  split <;> infer_instance

instance ends_structItem (start : ItemStart) :
    Ends (structItem shallow start) (structItem deep start) := by
  unfold structItem
  infer_instance

instance ends_enumItem (start : ItemStart) :
    Ends (enumItem shallow start) (enumItem deep start) := by
  unfold enumItem
  infer_instance

instance ends_unionItem (start : ItemStart) :
    Ends (unionItem shallow start) (unionItem deep start) := by
  unfold unionItem
  infer_instance

instance extends_boundsTo (rules : BoundRules) (stop : Test) :
    Extends (boundsTo shallow rules stop) (boundsTo deep rules stop) := by
  unfold boundsTo
  infer_instance

instance ends_traitItem (start : ItemStart) :
    Ends (traitItem shallow start) (traitItem deep start) := by
  unfold traitItem
  dsimp only
  infer_instance

instance ends_implItem (start : ItemStart) :
    Ends (implItem shallow start) (implItem deep start) := by
  unfold implItem
  dsimp only
  repeat' first
    | with_reducible refine .ite ?_ ?_
    | infer_instance
    | with_reducible refine .behind inferInstance fun _ => ?_

instance ends_macroDefinition (start : ItemStart) :
    Ends (macroDefinition start) (macroDefinition start) := by
  unfold macroDefinition
  dsimp only
  infer_instance

instance ends_invocationItem (start : ItemStart) :
    Ends (invocationItem start) (invocationItem start) := by
  unfold invocationItem
  refine .behind inferInstance fun path => .behind inferInstance fun _ =>
    .behind inferInstance fun isNamed => ?_
  dsimp only
  refine .ite (.behind inferInstance fun name => ?_) (.behind inferInstance fun name => ?_)
  all_goals
    refine .delimited endsInBraces_anyGroup (fun group other => ?_) fun group braces => ?_
    · rw [if_pos (by simpa using other)]
      infer_instance
    · rw [if_neg (by simpa using braces)]
      infer_instance

instance ends_uncheckedItem (start : ItemStart) (ahead : List Token) :
    Ends (uncheckedItem shallow start ahead) (uncheckedItem deep start ahead) := by
  unfold uncheckedItem
  dsimp only
  infer_instance

instance ends_itemBehind (tokens : List Token) (attributes : Node (.many .attribute)) :
    Ends (itemBehind shallow tokens attributes) (itemBehind deep tokens attributes) := by
  unfold itemBehind
  dsimp only
  infer_instance

instance ends_readItem : Ends (readItem shallow) (readItem deep) := by
  unfold readItem
  infer_instance

end

end Scaffold.Source.Grammar
