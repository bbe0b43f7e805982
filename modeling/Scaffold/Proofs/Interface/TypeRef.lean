import Scaffold.Proofs.Interface.ValueType

/-!
Contract: which types have a reference, and what its text says.

Owns:
- the types that have a reference, by what stands inside of their parentheses;
- the text of a reference, which is read as the type that it was made from.

Does not own: the parameters and results that references are made for.
-/

namespace Scaffold

open Source

/-- A type that can be referred to: the unit, or a path of segments without arguments, with no colons
in front and no owner of its own. -/
def Source.Node.IsNameable (type : Node .type) : Prop :=
  (∃ trailing, type = .tupleType .nil trailing)
    ∨ ∃ segments, type = .pathType (.simplePath false segments) ∧ segments.toList ≠ []
      ∧ ∀ segment ∈ segments.toList, ∃ name, segment = .pathSegment name .noArguments

theorem exists_bareNames?
    {segments : List (Node .segment)}
    (bare : ∀ segment ∈ segments, ∃ name, segment = .pathSegment name .noArguments) :
    ∃ names, bareNames? segments = some names := by
  induction segments with
  | nil => exact ⟨[], rfl⟩
  | cons segment segments inductionHypothesis =>
      obtain ⟨⟨name, rfl⟩, behind⟩ := List.forall_mem_cons.mp bare
      obtain ⟨names, areNames⟩ := inductionHypothesis behind
      exact ⟨name :: names, by rw [bareNames?_cons, areNames, Option.map_some]⟩

namespace TypeRef

/-- A row of names has a reference unless it is empty. -/
theorem exists_ofNames?
    {names : List String}
    (something : names ≠ []) :
    ∃ reference, ofNames? names = some reference := by
  rw [ofNames?]
  split
  · next isEmpty => exact absurd (List.reverse_eq_nil_iff.mp isEmpty) something
  · exact ⟨_, rfl⟩
  · exact ⟨_, rfl⟩

/-- Parentheses and groups around a type do not change its reference. -/
theorem classify_withoutParentheses {c : Category} (node : Node c) :
    classify node.withoutParentheses = classify node := by
  apply Node.withoutParentheses_induction fun node inner => classify inner = classify node
  case parenthesized | grouped => exact fun _ _ inside_ => inside_
  case bare => exact fun _ _ => rfl

theorem exists_classify_of_isNameable
    {type : Node .type}
    (isNameable : type.IsNameable) :
    ∃ reference, classify type = .ok reference := by
  rcases isNameable with ⟨trailing, rfl⟩ | ⟨segments, rfl, something, bare⟩
  · exact ⟨.unit, rfl⟩
  · obtain ⟨names, areNames⟩ := exists_bareNames? bare
    have named : names ≠ [] := by
      rintro rfl
      exact something (bareNames?_eq_some_iff.mp areNames)
    obtain ⟨reference, isReference⟩ := exists_ofNames? named
    exact ⟨reference, classify_path_eq_ok_iff.mpr (by rw [areNames, Option.bind_some, isReference])⟩

theorem isNameable_of_classify
    {type : Node .type}
    {reference : TypeRef}
    (found : classify type = .ok reference) :
    type.withoutParentheses.IsNameable := by
  rcases shape_of_classify found with ⟨trailing, isUnit, -⟩ | ⟨names, something, isPath, -⟩
  · exact .inl ⟨trailing, isUnit⟩
  · refine .inr ⟨_, isPath, ?_, ?_⟩ <;> rw [Node.toList_ofList]
    · simpa using something
    · simp

/-- A type has a reference exactly if it is nameable inside of its parentheses and groups. The text of
the reference is then read as this inner type, which has the same reference; `written` is any type that
differs from the given one in parentheses and groups alone and that some text is read as. -/
theorem classify_reads_back (type : Node .type) :
    ((∃ reference, classify type = .ok reference) ↔ type.withoutParentheses.IsNameable)
      ∧ ∀ reference, classify type = .ok reference →
        classify type.withoutParentheses = .ok reference
          ∧ ∀ text written, readTypeText text = some written →
            written.withoutParentheses = type.withoutParentheses →
            readTypeText reference.text = some type.withoutParentheses := by
  refine ⟨⟨fun ⟨_, found⟩ => isNameable_of_classify found, fun isNameable => ?_⟩,
    fun reference found => ⟨?_, fun text written spelled same => ?_⟩⟩
  · rw [← classify_withoutParentheses]
    exact exists_classify_of_isNameable isNameable
  · rw [classify_withoutParentheses, found]
  · have ofWritten : ofType? written = some reference := by
      rw [ofType?_eq_some_iff, ← classify_withoutParentheses, same, classify_withoutParentheses, found]
    obtain ⟨-, row, isText⟩ := exists_isTypeText ofWritten spelled
    rw [isText.readTypeText_eq (by decide), same]

end TypeRef

end Scaffold
