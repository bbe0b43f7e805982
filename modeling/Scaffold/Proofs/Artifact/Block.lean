import Mathlib.Logic.Function.Iterate
import Scaffold.Proofs.Artifact.Rendering

/-!
Contract: blocks of lines in generated text.

Owns:
- the lines of a text, and the lines that stand together in it, however deep;
- blocks in the bodies of other blocks.

Does not own: which blocks a template has.
-/

namespace Scaffold.Artifact

theorem subset_intersperse
    {α : Type}
    (separator : α)
    (elements : List α) :
    elements ⊆ elements.intersperse separator := by
  induction elements with
  | nil => exact List.nil_subset _
  | cons first rest inductionHypothesis =>
      cases rest with
      | nil => exact List.Subset.refl _
      | cons second rest =>
          rw [List.intersperse_cons_cons]
          exact List.cons_subset_cons _ (List.subset_cons_of_subset _ inductionHypothesis)

/-- A line one level deeper. -/
def indent (text : String) : String :=
  if text = "" then "" else Code.margin ++ text

/-- Do the lines stand together in the text, all of them equally deep? -/
def HasLines (text : String) (lines : List String) : Prop :=
  ∃ depth front back, text = joinedBy "\n" (front ++ lines.map (indent^[depth]) ++ back) ++ "\n"

namespace Code

/-- The lines of the text of parts below each other. -/
def textLines (parts : List Code) : List String :=
  (all parts).lines.map Line.text

/-- Do the lines stand together in those of the parts, all of them equally deep? -/
def Holds (parts : List Code) (lines : List String) : Prop :=
  ∃ depth, lines.map (indent^[depth]) <:+: textLines parts

theorem textLines_deeper (parts : List Code) :
    textLines [deeper parts] = (textLines parts).map indent := by
  simp only [textLines, all, deeper, List.flatMap_cons, List.flatMap_nil, List.append_nil, List.map_map]
  refine List.map_congr_left fun line _ => ?_
  rw [Function.comp_apply, Function.comp_apply, indent]
  split
  · next isEmpty => exact isEmpty
  · simp [Line.text, Piece.text]

theorem textLines_append (front back : List Code) :
    textLines (front ++ back) = textLines front ++ textLines back := by
  simp [textLines, all]

theorem textLines_cons (part : Code) (parts : List Code) :
    textLines (part :: parts) = textLines [part] ++ textLines parts :=
  textLines_append [part] parts

theorem textLines_line (content : Line) : textLines [line content] = [content.text] :=
  rfl

theorem textLines_all (parts : List Code) : textLines [.all parts] = textLines parts := by
  simp [textLines, all]

theorem textLines_nest (opening closing : Line) (body : List Code) :
    textLines [.nest opening body closing]
      = opening.text :: (textLines body).map indent ++ [closing.text] := by
  rw [nest, textLines_all, textLines_cons (line opening), textLines_cons (deeper body),
    textLines_deeper, textLines_line, textLines_line]
  rfl

theorem textLines_hang (head : Line) (body : List Code) :
    textLines [.hang head body] = head.text :: (textLines body).map indent := by
  rw [hang, textLines_all, textLines_cons (line head), textLines_deeper, textLines_line]
  rfl

theorem textLines_each
    {α : Type}
    (elements : List α)
    (content : α → Line) :
    textLines [.each elements fun element => [line (content element)]]
      = elements.map fun element => (content element).text := by
  rw [each, textLines_all]
  induction elements with
  | nil => rfl
  | cons element elements inductionHypothesis =>
      rw [List.flatMap_cons, List.singleton_append, textLines_cons, inductionHypothesis]
      rfl

section

variable
  {part : Code}
  {parts body : List Code}
  {lines : List String}

theorem Holds.hasLines (holds : Holds parts lines) : HasLines (text parts) lines := by
  obtain ⟨depth, front, back, same⟩ := holds
  exact ⟨depth, front, back, congrArg (joinedBy "\n" · ++ "\n") same.symm⟩

theorem holds_textLines (parts : List Code) : Holds parts (textLines parts) :=
  ⟨0, by simp⟩

theorem Holds.mono (holds : Holds body lines) (within : body <:+: parts) : Holds parts lines := by
  obtain ⟨depth, inBody⟩ := holds
  obtain ⟨front, back, rfl⟩ := within
  refine ⟨depth, inBody.trans ⟨textLines front, textLines back, ?_⟩⟩
  simp [textLines, all]

theorem Holds.of_mem (holds : Holds [part] lines) (member : part ∈ parts) : Holds parts lines := by
  obtain ⟨front, back, rfl⟩ := List.append_of_mem member
  exact holds.mono ⟨front, back, by simp⟩

theorem Holds.deeper (holds : Holds body lines) : Holds [deeper body] lines := by
  obtain ⟨depth, within⟩ := holds
  refine ⟨depth + 1, ?_⟩
  rw [textLines_deeper, Function.iterate_succ', ← List.map_map]
  exact within.map indent

theorem Holds.all (holds : Holds parts lines) : Holds [.all parts] lines := by
  obtain ⟨depth, within⟩ := holds
  refine ⟨depth, ?_⟩
  rwa [textLines_all]

theorem Holds.nest (holds : Holds body lines) (opening closing : Line) :
    Holds [.nest opening body closing] lines :=
  .all (holds.deeper.of_mem (by simp))

theorem Holds.block (holds : Holds body lines) (head : Line) : Holds [.block head body] lines :=
  holds.nest _ _

theorem Holds.each
    {α : Type}
    {elements : List α}
    {element : α}
    {make : α → List Code}
    (holds : Holds (make element) lines)
    (member : element ∈ elements) :
    Holds [.each elements make] lines :=
  .all (holds.mono (List.infix_of_mem_flatten (List.mem_map_of_mem member)))

theorem Holds.members
    (holds : Holds [part] lines)
    (member : part ∈ parts)
    (head : Line) :
    Holds [.members head parts] lines := by
  cases parts with
  | nil => cases member
  | cons first rest =>
      exact Holds.block (holds.of_mem (subset_intersperse _ _ member)) head

end

end Code

end Scaffold.Artifact
