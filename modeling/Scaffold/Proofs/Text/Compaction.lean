import Mathlib.Tactic.ByContra
import Scaffold.Text.Compact

/-!
Contract: the compact spelling of a text, one blank at a time.

Owns:
- what one replacement does to a text;
- the blanks that any of them takes away, by the characters around the blank;
- the compact text as the end of such steps.

Does not own: the tokens of the text.
-/

namespace Scaffold.Text

/-! ### Replacements -/

theorem afterLiteral_eq_some_iff {lead text rest : List Char} :
    afterLiteral lead text = some rest ↔ text = lead ++ rest := by
  induction lead generalizing text with
  | nil => simp [afterLiteral, eq_comm]
  | cons wanted lead inductionHypothesis =>
      cases text with
      | nil => simp [afterLiteral]
      | cons char text =>
          rw [afterLiteral, Option.ite_none_right_eq_some, inductionHypothesis, List.cons_append,
            List.cons.injEq, eq_comm]

theorem replaceFrom_skip
    (source target passed rest : List Char) :
    replaceFrom source target passed.length (passed ++ rest)
      = replaceFrom source target 0 rest := by
  induction passed with
  | nil => rfl
  | cons char passed inductionHypothesis =>
      rw [List.cons_append, List.length_cons, replaceFrom]
      exact inductionHypothesis

theorem replaceFrom_of_match
    {source : List Char}
    (target rest : List Char)
    (nonempty : source ≠ []) :
    replaceFrom source target 0 (source ++ rest)
      = target ++ replaceFrom source target 0 rest := by
  cases source with
  | nil => contradiction
  | cons char tail =>
      have found : (afterLiteral (char :: tail) (char :: (tail ++ rest))).isSome = true := by
        rw [afterLiteral_eq_some_iff.mpr (List.cons_append ..).symm]
        rfl
      rw [List.cons_append, replaceFrom]
      simp only [found, if_true, replaceFrom_skip]

theorem replaceFrom_of_no_match
    {source : List Char}
    {char : Char}
    {text : List Char}
    (target : List Char)
    (apart : ∀ rest, char :: text ≠ source ++ rest) :
    replaceFrom source target 0 (char :: text) = char :: replaceFrom source target 0 text := by
  cases source with
  | nil => rfl
  | cons first tail =>
      have noMatch : afterLiteral (first :: tail) (char :: text) = none := by
        by_contra found
        obtain ⟨rest, found⟩ := Option.ne_none_iff_exists'.mp found
        exact apart rest (afterLiteral_eq_some_iff.mp found)
      rw [replaceFrom]
      simp [noMatch]

/-! ### What a replacement takes away -/

/-- Is a blank taken away behind what stands in front of it, the last character first? -/
def isLooseBehind : List Char → Bool
  | ':' :: ':' :: _ => true
  | char :: _ => ['&', '*', '<', '('].contains char
  | [] => false

/-- Is a blank taken away in front of what stands behind it? -/
def isLooseAhead : List Char → Bool
  | ':' :: ':' :: _ => true
  | ':' :: ' ' :: _ => true
  | char :: _ => [',', '<', '>', ')'].contains char
  | [] => false

/-- Is a blank taken away by one of the replacements? `before` is what stands in front of it, the
last character first, and `after` what stands behind it. -/
def isLoose (before after : List Char) : Bool :=
  isLooseBehind before || isLooseAhead after

/-- A text without some of the blanks that replacements take away. `before` is what stands in
front of the text, the last character first. -/
inductive Sheds : List Char → List Char → List Char → Prop where
  | nil {before : List Char} : Sheds before [] []
  | keep {before text shorter : List Char} {char : Char}
      (behind : Sheds (char :: before) text shorter) :
      Sheds before (char :: text) (char :: shorter)
  | shed {before text shorter : List Char}
      (loose : isLoose before text = true)
      (behind : Sheds (' ' :: before) text shorter) :
      Sheds before (' ' :: text) shorter

/-- A replacement takes away nothing but such blanks. -/
def IsCompaction (source target : List Char) : Prop :=
  ∀ before text shorter, Sheds (source.reverse ++ before) text shorter →
    Sheds before (source ++ text) (target ++ shorter)

theorem isCompaction_of_mem
    {rule : String × String}
    (member : rule ∈ compactions) :
    IsCompaction rule.1.toList rule.2.toList := by
  have ahead (before after : List Char) (loose : isLooseAhead after = true) :
      isLoose before after = true := by
    rw [isLoose, loose, Bool.or_true]
  simp only [compactions, List.mem_cons, List.not_mem_nil, or_false] at member
  rcases member with rfl | rfl | rfl | rfl | rfl | rfl | rfl | rfl | rfl | rfl | rfl | rfl
  · show IsCompaction [' ', ':', ':', ' '] [':', ':']
    exact fun _ _ _ behind => .shed (ahead _ _ rfl) (.keep (.keep (.shed rfl behind)))
  · show IsCompaction [' ', ':', ':'] [':', ':']
    exact fun _ _ _ behind => .shed (ahead _ _ rfl) (.keep (.keep behind))
  · show IsCompaction [':', ':', ' '] [':', ':']
    exact fun _ _ _ behind => .keep (.keep (.shed rfl behind))
  · show IsCompaction [' ', ','] [',']
    exact fun _ _ _ behind => .shed (ahead _ _ rfl) (.keep behind)
  · show IsCompaction [' ', ':', ' '] [':', ' ']
    exact fun _ _ _ behind => .shed (ahead _ _ rfl) (.keep (.keep behind))
  · show IsCompaction ['&', ' '] ['&']
    exact fun _ _ _ behind => .keep (.shed rfl behind)
  · show IsCompaction ['*', ' '] ['*']
    exact fun _ _ _ behind => .keep (.shed rfl behind)
  · show IsCompaction [' ', '<'] ['<']
    exact fun _ _ _ behind => .shed (ahead _ _ rfl) (.keep behind)
  · show IsCompaction ['<', ' '] ['<']
    exact fun _ _ _ behind => .keep (.shed rfl behind)
  · show IsCompaction [' ', '>'] ['>']
    exact fun _ _ _ behind => .shed (ahead _ _ rfl) (.keep behind)
  · show IsCompaction ['(', ' '] ['(']
    exact fun _ _ _ behind => .keep (.shed rfl behind)
  · show IsCompaction [' ', ')'] [')']
    exact fun _ _ _ behind => .shed (ahead _ _ rfl) (.keep behind)

theorem IsCompaction.sheds
    {source target : List Char}
    (compaction : IsCompaction source target)
    (nonempty : source ≠ [])
    (before text : List Char) :
    Sheds before text (replaceFrom source target 0 text) := by
  induction size : text.length using Nat.strongRecOn generalizing before text with
  | ind size inductionHypothesis =>
      cases text with
      | nil =>
          cases source <;> exact .nil
      | cons char text =>
          by_cases found : ∃ rest, char :: text = source ++ rest
          · obtain ⟨rest, found⟩ := found
            rw [found, replaceFrom_of_match target rest nonempty]
            refine compaction _ _ _ ?_
            refine inductionHypothesis rest.length ?_ _ rest rfl
            have positive := List.length_pos_iff.mpr nonempty
            rw [← size, found, List.length_append]
            omega
          · rw [replaceFrom_of_no_match target fun rest same => found ⟨rest, same⟩]
            exact .keep (inductionHypothesis text.length (by rw [← size]; exact Nat.lt_succ_self _)
              _ text rfl)

/-- One text comes out of another by replacements of the table. -/
inductive Compacts : List Char → List Char → Prop where
  | refl {text : List Char} : Compacts text text
  | step {text shorter shortest : List Char}
      (sheds : Sheds [] text shorter)
      (behind : Compacts shorter shortest) :
      Compacts text shortest

theorem source_ne_nil_of_mem
    {rule : String × String}
    (member : rule ∈ compactions) :
    rule.1.toList ≠ [] := by
  have checked : ∀ rule ∈ compactions, rule.1.toList ≠ [] := by decide
  exact checked rule member

theorem compacts_compact (text : String) :
    Compacts (trimChars text.toList) (compact text).toList := by
  have folded (rules : List (String × String)) (within : ∀ rule ∈ rules, rule ∈ compactions)
      (current : String) :
      Compacts current.toList
        (rules.foldl (fun current rule => replaceAll rule.1 rule.2 current) current).toList := by
    induction rules generalizing current with
    | nil => exact .refl
    | cons rule rules inductionHypothesis =>
        have member := within rule List.mem_cons_self
        refine .step ((isCompaction_of_mem member).sheds (source_ne_nil_of_mem member) [] _) ?_
        have behind := inductionHypothesis
          (fun other found => within other (List.mem_cons_of_mem _ found))
          (replaceAll rule.1 rule.2 current)
        rw [replaceAll, String.toList_ofList] at behind
        exact behind
  have all := folded compactions (fun _ member => member) (trim text)
  rwa [trim, String.toList_ofList] at all

end Scaffold.Text
