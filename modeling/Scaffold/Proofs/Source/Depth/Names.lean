import Scaffold.Proofs.Source.Depth.Reader

/-!
Contract: the readers of names and attributes over deeper readers.

Owns:
- the relation between two tables of readers: each reader of the second extends that of the first;
- plain paths, macro arguments, attributes and visibilities over related tables.

Does not own: which tables are related.
-/

namespace Scaffold.Source.Grammar

open Source.Parser

/-- Each reader of the deep table extends that of the shallow one. -/
class Deepens (shallow deep : Grammar) : Prop where
  type : ∀ allowPlus, Extends (shallow.type allowPlus) (deep.type allowPlus)
  expr : ∀ allowStruct, Extends (shallow.expr allowStruct) (deep.expr allowStruct)
  operand : ∀ allowStruct, Extends (shallow.operand allowStruct) (deep.operand allowStruct)
  operators : ∀ left allowStruct base,
    Extends (shallow.operators left allowStruct base) (deep.operators left allowStruct base)
  matching : Extends shallow.matching deep.matching
  pattern : Extends shallow.pattern deep.pattern
  statements : Extends shallow.statements deep.statements
  item : Extends shallow.item deep.item
  useTree : ∀ allowRoot, Extends (shallow.useTree allowRoot) (deep.useTree allowRoot)

attribute [instance] Deepens.type Deepens.expr Deepens.operand Deepens.operators Deepens.matching
  Deepens.pattern Deepens.statements Deepens.item Deepens.useTree

/-! ### Plain paths -/

instance extends_plainPath : Extends plainPath plainPath := by
  unfold plainPath
  infer_instance

instance extends_invocationBehind (path : PlainPath) :
    Extends (invocationBehind path) (invocationBehind path) := by
  unfold invocationBehind
  infer_instance

instance extends_invocation : Extends invocation invocation := by
  unfold invocation
  infer_instance

instance extends_identifierOrUnderscore : Extends identifierOrUnderscore identifierOrUnderscore := by
  unfold identifierOrUnderscore
  infer_instance

/-! ### Visibilities -/

instance extends_restriction : Extends restriction restriction := by
  refine .of_whole fun {row value rest} reads => ?_
  let path : Parser PlainPath := inside .parenthesis (do word "in"; plainPath)
  have isWhole : Extends path path := inferInstanceAs (Extends (inside _ _) (inside _ _))
  obtain ⟨ahead, _, got, reads⟩ := bind_eq_some reads
  cases got
  split at reads
  · split at reads
    · split at reads
      · cases reads
        exact ⟨[.opening .parenthesis, .word _, .closing _], rfl, ⟨rfl⟩⟩
      · cases reads
        exact ⟨[], rfl, .nil⟩
    · split at reads
      · obtain ⟨_, _, reads, same⟩ := bind_eq_some reads
        cases same
        exact (isWhole.answers reads).2
      · cases reads
        exact ⟨[], rfl, .nil⟩
  · cases reads
    exact ⟨[], rfl, .nil⟩

instance extends_visibility : Extends visibility visibility := by
  unfold visibility
  infer_instance

/-! ### Attributes -/

instance extends_attributePath : Extends attributePath attributePath := by
  unfold attributePath
  infer_instance

section Attributes

variable
  {shallow deep : Grammar}
  [Deepens shallow deep]

instance extends_attributeValue : Extends (attributeValue shallow) (attributeValue deep) := by
  unfold attributeValue
  refine .bind inferInstance fun whole => ?_
  split <;> infer_instance

instance extends_attributeContent (inner : Bool) :
    Extends (attributeContent shallow inner) (attributeContent deep inner) := by
  unfold attributeContent
  infer_instance

instance extends_outerAttribute : Extends (outerAttribute shallow) (outerAttribute deep) := by
  unfold outerAttribute
  infer_instance

instance extends_innerAttribute : Extends (innerAttribute shallow) (innerAttribute deep) := by
  unfold innerAttribute
  infer_instance

instance extends_outerAttributes : Extends (outerAttributes shallow) (outerAttributes deep) := by
  unfold outerAttributes
  infer_instance

instance extends_innerAttributes : Extends (innerAttributes shallow) (innerAttributes deep) := by
  unfold innerAttributes
  infer_instance

end Attributes

end Scaffold.Source.Grammar
