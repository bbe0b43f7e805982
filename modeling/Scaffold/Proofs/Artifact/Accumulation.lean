import Scaffold.Artifact.Rendering

/-!
Contract: what accumulates in the task of one kind.

Owns:
- the comparison of declarations and of attributes as an equivalence;
- a list behind another one, as the first occurrences of both together;
- the merge of many fragments, one after the other or in tasks of their own.

Does not own: which fragments a run merges.
-/

namespace Scaffold

open Source

/-! ### Comparison -/

/-- A comparison that sorts elements into classes. -/
structure IsLikeness {α : Type} (same : α → α → Bool) : Prop where
  refl : ∀ element, same element element = true
  comm : ∀ left right, same left right = same right left
  trans : ∀ left middle right,
    same left middle = true → same middle right = true → same left right = true

/-- A comparison of what elements are spelled with is one. -/
theorem IsLikeness.ofSpelling
    {α β : Type}
    [BEq β]
    [LawfulBEq β]
    (spelling : α → β) :
    IsLikeness fun left right => spelling left == spelling right where
  refl element := by simp
  comm left right := BEq.comm
  trans left middle right alike alikeNext := by
    rw [beq_iff_eq] at alike alikeNext ⊢
    exact alike.trans alikeNext

theorem Source.Node.sameItem_isLikeness : IsLikeness Node.sameItem :=
  .ofSpelling fun item : Node .item => (item.spell true : List Token)

theorem Source.Node.sameAttribute_isLikeness : IsLikeness Node.sameAttribute :=
  .ofSpelling fun attr : Node .attribute => (attr.spell true : List Token)

/-! ### First occurrences -/

section FirstOccurrences

variable {α : Type} {same : α → α → Bool}

/-- A test that does not tell apart what the comparison does not tell apart. -/
def Respects (same : α → α → Bool) (test : α → Bool) : Prop :=
  ∀ left right, same left right = true → test left = test right

/-- Is nothing in the list the same as the element? -/
def isNew (same : α → α → Bool) (held : List α) (element : α) : Bool :=
  !held.any fun old => same old element

theorem isNew_nil (element : α) : isNew same [] element = true := by
  simp [isNew]

theorem isNew_append_singleton
    (likeness : IsLikeness same)
    (held : List α)
    (last element : α) :
    isNew same (held ++ [last]) element
      = (isNew same held element && decide (same element last = false)) := by
  have sameAsLast := likeness.comm last element
  cases lastSame : same last element <;> simp [isNew, lastSame, ← sameAsLast]

theorem respects_isNew (likeness : IsLikeness same) (held : List α) :
    Respects same (isNew same held) := by
  intro left right alike
  have sameTest : ∀ old, same old left = same old right := by
    intro old
    rw [Bool.eq_iff_iff]
    constructor
    · intro oldLeft
      exact likeness.trans old left right oldLeft alike
    · intro oldRight
      rw [likeness.comm left right] at alike
      exact likeness.trans old right left oldRight alike
  simp [isNew, sameTest]

/-- A test that respects the comparison may be applied before or after later occurrences are
left out. -/
theorem eraseDupsBy_filter
    {test : α → Bool}
    (respects : Respects same test)
    (elements : List α) :
    (elements.filter test).eraseDupsBy same = (elements.eraseDupsBy same).filter test := by
  match elements with
  | [] => simp
  | element :: rest =>
      have shorter : (rest.filter fun later => same later element = false).length
          < rest.length + 1 :=
        Nat.lt_succ_of_le (List.length_filter_le _ rest)
      have recursive :=
        eraseDupsBy_filter respects (rest.filter fun later => same later element = false)
      rw [List.eraseDupsBy_cons]
      cases passes : test element with
      | true =>
          rw [List.filter_cons_of_pos passes, List.filter_cons_of_pos passes,
            List.eraseDupsBy_cons, ← recursive]
          simp only [List.filter_filter, Bool.and_comm]
      | false =>
          rw [List.filter_cons_of_neg (by simp [passes]),
            List.filter_cons_of_neg (by simp [passes]), ← recursive, List.filter_filter]
          -- Whatever the test lets through differs from the element that it holds back.
          have differs : ∀ later ∈ rest,
              (test later && decide (same later element = false)) = test later := by
            intro later _
            cases alike : same later element with
            | false => simp
            | true => simp [respects later element alike, passes]
          rw [List.filter_congr differs]
termination_by elements.length
decreasing_by exact shorter

theorem eraseDupsBy_eraseDupsBy (likeness : IsLikeness same) (elements : List α) :
    (elements.eraseDupsBy same).eraseDupsBy same = elements.eraseDupsBy same := by
  match elements with
  | [] => simp
  | element :: rest =>
      have shorter : (rest.filter fun later => same later element = false).length
          < rest.length + 1 :=
        Nat.lt_succ_of_le (List.length_filter_le _ rest)
      have respects : Respects same fun later => decide (same later element = false) := by
        intro left right alike
        have sameTest := respects_isNew likeness [element] left right alike
        simp only [isNew, List.any_cons, List.any_nil, Bool.or_false,
          likeness.comm element] at sameTest
        simpa using sameTest
      rw [List.eraseDupsBy_cons, List.eraseDupsBy_cons, ← eraseDupsBy_filter respects,
        List.filter_filter]
      simp only [Bool.and_self]
      rw [eraseDupsBy_eraseDupsBy likeness]
termination_by elements.length
decreasing_by exact shorter

end FirstOccurrences

/-! ### Appending what is new -/

namespace ArtifactTask

section AppendNew

variable {α : Type} {same : α → α → Bool}

/-- What is appended is the first occurrences of what the list does not hold yet. -/
theorem appendNew_eq
    (likeness : IsLikeness same)
    (held elements : List α) :
    appendNew same held elements
      = held ++ (elements.filter (isNew same held)).eraseDupsBy same := by
  induction elements generalizing held with
  | nil => simp [appendNew]
  | cons element rest inductionHypothesis =>
      cases isHeld : held.any fun old => same old element with
      | true =>
          have notNew : ¬ isNew same held element = true := by simp [isNew, isHeld]
          rw [appendNew, if_pos isHeld, inductionHypothesis,
            List.filter_cons_of_neg notNew]
      | false =>
          have isNewHere : isNew same held element = true := by simp [isNew, isHeld]
          have isNewLater : ∀ later ∈ rest,
              isNew same (held ++ [element]) later
                = (decide (same later element = false) && isNew same held later) := by
            intro later _
            rw [isNew_append_singleton likeness, Bool.and_comm]
          rw [appendNew, isHeld, if_neg Bool.false_ne_true, inductionHypothesis,
            List.filter_cons_of_pos isNewHere, List.eraseDupsBy_cons, List.filter_filter,
            List.append_assoc, List.singleton_append, List.filter_congr isNewLater]

theorem appendNew_nil (likeness : IsLikeness same) (elements : List α) :
    appendNew same [] elements = elements.eraseDupsBy same := by
  rw [appendNew_eq likeness, List.nil_append, List.filter_eq_self.mpr]
  intro element _
  exact isNew_nil element

theorem appendNew_append (held first second : List α) :
    appendNew same held (first ++ second) = appendNew same (appendNew same held first) second := by
  induction first generalizing held with
  | nil => rfl
  | cons element rest inductionHypothesis =>
      rw [List.cons_append, appendNew, appendNew]
      split
      · exact inductionHypothesis held
      · exact inductionHypothesis (held ++ [element])

/-- Leaving out later occurrences before a list is appended changes nothing. -/
theorem appendNew_appendNew_nil
    (likeness : IsLikeness same)
    (held elements : List α) :
    appendNew same held (appendNew same [] elements) = appendNew same held elements := by
  rw [appendNew_nil likeness, appendNew_eq likeness, appendNew_eq likeness,
    eraseDupsBy_filter (respects_isNew likeness held),
    eraseDupsBy_filter (respects_isNew likeness held), eraseDupsBy_eraseDupsBy likeness]

end AppendNew

/-! ### Merging -/

/-- A task that absorbs the fresh task of one fragment merges the fragment. -/
theorem absorb_merge_empty (task : ArtifactTask) (kind : ArtifactKind) (fragment : SourceFile) :
    task.absorb ((empty kind).merge fragment) = task.merge fragment := by
  simp only [absorb, merge, empty, toFile,
    appendNew_appendNew_nil Node.sameAttribute_isLikeness,
    appendNew_appendNew_nil Node.sameItem_isLikeness]

/-- Absorbing the fresh tasks of fragments one after the other is merging the fragments. -/
theorem foldl_absorb_fresh (kind : ArtifactKind) (fragments : List SourceFile) (task : ArtifactTask) :
    (fragments.map (empty kind).merge).foldl absorb task = fragments.foldl merge task := by
  rw [List.foldl_map]
  congr 1
  funext accumulated fragment
  exact absorb_merge_empty accumulated kind fragment

theorem foldl_merge (fragments : List SourceFile) (task : ArtifactTask) :
    fragments.foldl merge task
      = ⟨task.kind,
          appendNew Node.sameAttribute task.attributes
            (fragments.flatMap SourceFile.attributes),
          appendNew Node.sameItem task.items (fragments.flatMap SourceFile.items)⟩ := by
  induction fragments generalizing task with
  | nil => rfl
  | cons fragment rest inductionHypothesis =>
      rw [List.foldl_cons, inductionHypothesis]
      simp [merge, appendNew_append]

/-- Merging fragments into a fresh task keeps the first occurrences in all of them together. -/
theorem foldl_merge_empty (kind : ArtifactKind) (fragments : List SourceFile) :
    fragments.foldl merge (empty kind)
      = ⟨kind,
          (fragments.flatMap SourceFile.attributes).eraseDupsBy Node.sameAttribute,
          (fragments.flatMap SourceFile.items).eraseDupsBy Node.sameItem⟩ := by
  rw [foldl_merge]
  simp only [empty, appendNew_nil Node.sameAttribute_isLikeness,
    appendNew_nil Node.sameItem_isLikeness]

/-- Absorbing what fragments accumulated in a fresh task is merging the fragments. -/
theorem absorb_foldl_merge_empty
    (task : ArtifactTask)
    (kind : ArtifactKind)
    (fragments : List SourceFile) :
    task.absorb (fragments.foldl merge (empty kind)) = fragments.foldl merge task := by
  rw [foldl_merge, foldl_merge]
  simp only [absorb, merge, empty, toFile,
    appendNew_appendNew_nil Node.sameAttribute_isLikeness,
    appendNew_appendNew_nil Node.sameItem_isLikeness]

end ArtifactTask

end Scaffold
