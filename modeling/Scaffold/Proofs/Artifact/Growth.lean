import Scaffold.Artifact.Step
import Scaffold.Proofs.Artifact.Accumulation
import Scaffold.Proofs.Artifact.Rendering

/-!
Contract: a task that accumulates step by step.

Owns:
- what one step may do to a task: it only appends, it counts what it appends, and where it fails it
  changes nothing;
- the histories of tasks, those of the tasks that they absorb included;
- the content of a task as a function of the fragments in its history alone.

Does not own: which steps a run takes.
-/

namespace Scaffold

open Source

/-! ### Appending and counting -/

namespace ArtifactTask

section AppendNew

variable {α : Type} {same : α → α → Bool}

/-- The elements that are appended while they are counted. -/
theorem appendCounting_fst (held : List α) (appended : Nat) (elements : List α) :
    (appendCounting same held appended elements).1 = appendNew same held elements := by
  induction elements generalizing held appended with
  | nil => rfl
  | cons element rest inductionHypothesis =>
      rw [appendCounting, appendNew]
      split
      · exact inductionHypothesis held appended
      · exact inductionHypothesis (held ++ [element]) (appended + 1)

/-- The number that is counted, on top of what was appended before. -/
theorem appendCounting_snd (held : List α) (appended : Nat) (elements : List α) :
    held.length + (appendCounting same held appended elements).2
      = (appendNew same held elements).length + appended := by
  induction elements generalizing held appended with
  | nil => rfl
  | cons element rest inductionHypothesis =>
      rw [appendCounting, appendNew]
      split
      · exact inductionHypothesis held appended
      · have counted := inductionHypothesis (held ++ [element]) (appended + 1)
        rw [List.length_append, List.length_singleton] at counted
        omega

theorem prefix_appendNew (held elements : List α) : held <+: appendNew same held elements := by
  induction elements generalizing held with
  | nil => exact List.prefix_refl held
  | cons element rest inductionHypothesis =>
      rw [appendNew]
      split
      · exact inductionHypothesis held
      · exact (List.prefix_append held [element]).trans (inductionHypothesis (held ++ [element]))

/-- No two elements are the same. -/
def Apart (same : α → α → Bool) (elements : List α) : Prop :=
  elements.Pairwise fun element later => same element later = false

theorem apart_appendNew
    {held : List α}
    (apart : Apart same held)
    (elements : List α) :
    Apart same (appendNew same held elements) := by
  induction elements generalizing held with
  | nil => exact apart
  | cons element rest inductionHypothesis =>
      rw [appendNew]
      split
      case isTrue => exact inductionHypothesis apart
      case isFalse isNew =>
        apply inductionHypothesis
        apply List.pairwise_append.mpr
        refine ⟨apart, List.pairwise_singleton _ element, ?_⟩
        intro old member last isLast
        rw [List.mem_singleton.mp isLast]
        cases alike : same old element with
        | false => rfl
        | true => exact absurd (List.any_eq_true.mpr ⟨old, member, alike⟩) isNew

/-- What a list holds, a longer one holds as well. -/
theorem isNew_eq_false_of_prefix
    {held longer : List α}
    (isPrefix : held <+: longer)
    {element : α}
    (isHeld : isNew same held element = false) :
    isNew same longer element = false := by
  obtain ⟨rest, rfl⟩ := isPrefix
  rw [isNew, Bool.not_eq_false'] at isHeld ⊢
  rw [List.any_append, isHeld, Bool.true_or]

/-- Whatever was to be appended is held afterwards. -/
theorem isNew_appendNew
    (likeness : IsLikeness same)
    {held elements : List α}
    {element : α}
    (member : element ∈ elements) :
    isNew same (appendNew same held elements) element = false := by
  induction elements generalizing held with
  | nil => cases member
  | cons first rest inductionHypothesis =>
      rw [appendNew]
      rcases List.mem_cons.mp member with isFirst | isLater
      · rw [isFirst]
        split
        case isTrue isHeld =>
          apply isNew_eq_false_of_prefix (prefix_appendNew held rest)
          rw [isNew, isHeld, Bool.not_true]
        case isFalse =>
          apply isNew_eq_false_of_prefix (prefix_appendNew (held ++ [first]) rest)
          rw [isNew_append_singleton likeness, likeness.refl]
          simp
      · split
        · exact inductionHypothesis isLater
        · exact inductionHypothesis isLater

/-- Nothing is appended to a list that holds everything. -/
theorem appendNew_of_held
    {held elements : List α}
    (areHeld : ∀ element ∈ elements, isNew same held element = false) :
    appendNew same held elements = held := by
  induction elements with
  | nil => rfl
  | cons element rest inductionHypothesis =>
      obtain ⟨isHeld, restHeld⟩ := List.forall_mem_cons.mp areHeld
      rw [isNew, Bool.not_eq_false'] at isHeld
      rw [appendNew, if_pos isHeld]
      exact inductionHypothesis restHeld

end AppendNew

/-! ### One step -/

/-- Does the task hold everything in a fragment? -/
def Holds (task : ArtifactTask) (fragment : SourceFile) : Prop :=
  (∀ item ∈ fragment.items, isNew Node.sameItem task.items item = false)
    ∧ ∀ one ∈ fragment.attributes, isNew Node.sameAttribute task.attributes one = false

theorem holds_merge (task : ArtifactTask) (fragment : SourceFile) :
    (task.merge fragment).Holds fragment :=
  ⟨fun _ member => isNew_appendNew Node.sameItem_isLikeness member,
    fun _ member => isNew_appendNew Node.sameAttribute_isLikeness member⟩

theorem merge_of_holds
    {task : ArtifactTask}
    {fragment : SourceFile}
    (holds : task.Holds fragment) :
    task.merge fragment = task := by
  rw [merge, appendNew_of_held holds.1, appendNew_of_held holds.2]

/-- A task that only grew into another one: what it held stands in front there. -/
structure GrowsTo (before after : ArtifactTask) : Prop where
  kind : after.kind = before.kind
  items : before.items <+: after.items
  attributes : before.attributes <+: after.attributes

theorem GrowsTo.refl (task : ArtifactTask) : GrowsTo task task :=
  ⟨rfl, List.prefix_refl _, List.prefix_refl _⟩

theorem growsTo_merge (task : ArtifactTask) (fragment : SourceFile) :
    GrowsTo task (task.merge fragment) :=
  ⟨rfl, prefix_appendNew _ _, prefix_appendNew _ _⟩

theorem GrowsTo.holds
    {before after : ArtifactTask}
    (grows : GrowsTo before after)
    {fragment : SourceFile}
    (holds : before.Holds fragment) :
    after.Holds fragment :=
  ⟨fun item member => isNew_eq_false_of_prefix grows.items (holds.1 item member),
    fun one member => isNew_eq_false_of_prefix grows.attributes (holds.2 one member)⟩

theorem growsTo_foldl_merge (fragments : List SourceFile) (task : ArtifactTask) :
    GrowsTo task (fragments.foldl merge task) := by
  rw [foldl_merge]
  exact ⟨rfl, prefix_appendNew _ _, prefix_appendNew _ _⟩

/-- Once all of them are merged, a task holds every one of the fragments. -/
theorem holds_foldl_merge
    {fragments : List SourceFile}
    {fragment : SourceFile}
    (member : fragment ∈ fragments)
    (task : ArtifactTask) :
    (fragments.foldl merge task).Holds fragment := by
  obtain ⟨before, behind, rfl⟩ := List.append_of_mem member
  rw [List.foldl_append, List.foldl_cons]
  exact (growsTo_foldl_merge behind _).holds (holds_merge _ fragment)

/-- Merging while counting merges, and counts by how much the declarations grow. -/
theorem mergeCounting_eq (fragment : SourceFile) (task : ArtifactTask) :
    ∃ appended, (mergeCounting fragment : StateM ArtifactTask Nat) task
        = (appended, task.merge fragment)
      ∧ (task.merge fragment).items.length = task.items.length + appended := by
  have items : (appendCounting Node.sameItem task.items 0 fragment.items).1
      = appendNew Node.sameItem task.items fragment.items :=
    appendCounting_fst task.items 0 fragment.items
  have counted : task.items.length
        + (appendCounting Node.sameItem task.items 0 fragment.items).2
      = (appendNew Node.sameItem task.items fragment.items).length :=
    appendCounting_snd task.items 0 fragment.items
  refine ⟨(appendCounting Node.sameItem task.items 0 fragment.items).2, ?_, counted.symm⟩
  rw [merge, ← items]
  rfl

end ArtifactTask

namespace TaskStep

/-- What a step merges into a task of a kind, unless it fails. -/
def fragment (kind : ArtifactKind) : TaskStep → Except Failure SourceFile
  | merge fragment => .ok fragment
  | absorb other => .ok other.toFile
  | render service => service.fragment kind

/-- The rendering of a service is the merge of what it spells, or it fails. -/
theorem take_render (service : Service) (task : ArtifactTask) :
    (render service).take task
      = match service.fragment task.kind with
        | .error failure => (.error failure, task)
        | .ok fragment => (merge fragment).take task := by
  have opened : (render service).take task
      = (match service.fragment task.kind with
          | .error failure => throw failure
          | .ok fragment => run (merge fragment)).run.run task := rfl
  rw [opened]
  cases service.fragment task.kind with
  | error failure => rfl
  | ok fragment => rfl

/-- A merge tells what was counted and leaves the merged task. -/
theorem take_merge (fragment : SourceFile) (task : ArtifactTask) :
    ∃ appended, (merge fragment).take task = (.ok appended, task.merge fragment)
      ∧ (task.merge fragment).items.length = task.items.length + appended := by
  obtain ⟨appended, merges, counted⟩ := ArtifactTask.mergeCounting_eq fragment task
  have opened : (merge fragment).take task
      = (.ok ((ArtifactTask.mergeCounting fragment : StateM ArtifactTask Nat) task).1,
          ((ArtifactTask.mergeCounting fragment : StateM ArtifactTask Nat) task).2) := rfl
  exact ⟨appended, by rw [opened, merges], counted⟩

/-- Everything that a step may do to a task: it merges its fragment and counts by how much the
declarations grow, or it has none and leaves the task as it was. -/
theorem take_cases (step : TaskStep) (task : ArtifactTask) :
    (∃ fragment appended, step.fragment task.kind = .ok fragment
        ∧ step.take task = (.ok appended, task.merge fragment)
        ∧ (task.merge fragment).items.length = task.items.length + appended)
      ∨ ∃ failure, step.fragment task.kind = .error failure
        ∧ step.take task = (.error failure, task) := by
  cases step with
  | merge fragment =>
      obtain ⟨appended, merges, counted⟩ := take_merge fragment task
      exact .inl ⟨fragment, appended, rfl, merges, counted⟩
  | absorb other =>
      obtain ⟨appended, merges, counted⟩ := take_merge other.toFile task
      exact .inl ⟨other.toFile, appended, rfl, merges, counted⟩
  | render service =>
      rw [take_render, TaskStep.fragment]
      cases service.fragment task.kind with
      | error failure => exact .inr ⟨failure, rfl, rfl⟩
      | ok fragment =>
          obtain ⟨appended, merges, counted⟩ := take_merge fragment task
          exact .inl ⟨fragment, appended, rfl, merges, counted⟩

theorem growsTo_take (step : TaskStep) (task : ArtifactTask) :
    ArtifactTask.GrowsTo task (step.take task).2 := by
  rcases take_cases step task with ⟨fragment, _, _, taken, _⟩ | ⟨failure, _, taken⟩
  · rw [taken]
    exact ArtifactTask.growsTo_merge task fragment
  · rw [taken]
    exact .refl task

/-- A step leaves the task with its fragment merged into it, if it has one. -/
theorem take_snd (step : TaskStep) (task : ArtifactTask) :
    (step.take task).2
      = (step.fragment task.kind).toOption.toList.foldl ArtifactTask.merge task := by
  rcases take_cases step task with ⟨fragment, _, merges, taken, _⟩ | ⟨failure, fails, taken⟩
  · rw [taken, merges]
    rfl
  · rw [taken, fails]
    rfl

/-- Steps one after the other merge the fragments of those that have one. -/
theorem foldl_take (steps : List TaskStep) (task : ArtifactTask) :
    steps.foldl (fun task step => (step.take task).2) task
      = (steps.filterMap fun step => (step.fragment task.kind).toOption).foldl
          ArtifactTask.merge task := by
  induction steps generalizing task with
  | nil => rfl
  | cons step rest inductionHypothesis =>
      rw [List.foldl_cons, inductionHypothesis, (growsTo_take step task).kind, take_snd]
      cases merges : step.fragment task.kind with
      | error failure => rw [List.filterMap_cons_none (by rw [merges]; rfl)]; rfl
      | ok fragment => rw [List.filterMap_cons_some (by rw [merges]; rfl)]; rfl

/-- A step that merges what the task holds already appends nothing. -/
theorem take_of_holds
    {step : TaskStep}
    {task : ArtifactTask}
    (holds : ∀ fragment, step.fragment task.kind = .ok fragment → task.Holds fragment) :
    ∃ outcome, step.take task = (outcome, task)
      ∧ ∀ appended, outcome = .ok appended → appended = 0 := by
  rcases take_cases step task with ⟨fragment, appended, merges, taken, counted⟩ | ⟨failure, _, taken⟩
  · have unchanged := ArtifactTask.merge_of_holds (holds fragment merges)
    rw [unchanged] at taken counted
    refine ⟨.ok appended, taken, ?_⟩
    intro other same
    cases same
    omega
  · refine ⟨.error failure, taken, ?_⟩
    intro appended same
    cases same

/-- The rendering that a build does is the step. -/
theorem renderAndMerge_eq (service : Service) (task : ArtifactTask) :
    task.renderAndMerge service
      = ((render service).take task).1.map fun _ => ((render service).take task).2 := by
  have opened : task.renderAndMerge service
      = service.fragment task.kind >>= fun fragment => .ok (task.merge fragment) := rfl
  rw [opened, take_render]
  cases service.fragment task.kind with
  | error failure => rfl
  | ok fragment =>
      obtain ⟨appended, merges, _⟩ := take_merge fragment task
      simp only [merges]
      rfl

end TaskStep

/-! ### Histories -/

/-- How a task came about: from an empty one, by one step after the other. A task that is absorbed
came about in the same way. -/
inductive History where
  | start (kind : ArtifactKind)
  | merge (before : History) (fragment : SourceFile)
  | absorb (before other : History)
  | render (before : History) (service : Service)

namespace History

/-- The kind of the file that a task is for. -/
def kind : History → ArtifactKind
  | start kind => kind
  | merge before _ => before.kind
  | absorb before _ => before.kind
  | render before _ => before.kind

/-- The task that came about. -/
def task : History → ArtifactTask
  | start kind => .empty kind
  | merge before fragment => ((TaskStep.merge fragment).take before.task).2
  | absorb before other => ((TaskStep.absorb other.task).take before.task).2
  | render before service => ((TaskStep.render service).take before.task).2

/-- The steps that were taken on the task itself. -/
def steps : History → List TaskStep
  | start _ => []
  | merge before fragment => before.steps ++ [.merge fragment]
  | absorb before other => before.steps ++ [.absorb other.task]
  | render before service => before.steps ++ [.render service]

/-- What these steps merged, in their order: an absorbed task is one fragment, and a step that
failed has none. -/
def merged (history : History) : List SourceFile :=
  history.steps.filterMap fun step => (step.fragment history.kind).toOption

/-- All fragments that were ever merged, in their order: those of an absorbed task are the ones in
its own history. -/
def fragments : History → List SourceFile
  | start _ => []
  | merge before fragment => before.fragments ++ [fragment]
  | absorb before other => before.fragments ++ other.fragments
  | render before service =>
      before.fragments ++ (service.fragment before.kind).toOption.toList

theorem task_kind (history : History) : history.task.kind = history.kind := by
  induction history with
  | start kind => rfl
  | merge before fragment inductionHypothesis =>
      exact (TaskStep.growsTo_take (.merge fragment) before.task).kind.trans inductionHypothesis
  | absorb before other inductionHypothesis _ =>
      exact (TaskStep.growsTo_take (.absorb other.task) before.task).kind.trans inductionHypothesis
  | render before service inductionHypothesis =>
      exact (TaskStep.growsTo_take (.render service) before.task).kind.trans inductionHypothesis

/-- The task is what merging the fragments of its history one after the other comes to. The
fragments of an absorbed task are merged as if they were the task's own. -/
theorem task_eq_foldl_fragments (history : History) :
    history.task = history.fragments.foldl ArtifactTask.merge (.empty history.kind) := by
  induction history with
  | start kind => rfl
  | merge before fragment inductionHypothesis =>
      rw [task, TaskStep.take_snd, fragments, List.foldl_append, kind, ← inductionHypothesis]
      rfl
  | absorb before other inductionHypothesis otherHypothesis =>
      have absorbs : (absorb before other).task = before.task.absorb other.task := by
        rw [task, TaskStep.take_snd]
        rfl
      rw [absorbs, otherHypothesis, ArtifactTask.absorb_foldl_merge_empty, fragments,
        List.foldl_append, kind, ← inductionHypothesis]
  | render before service inductionHypothesis =>
      rw [task, TaskStep.take_snd, fragments, List.foldl_append, kind, ← inductionHypothesis,
        task_kind]
      rfl

theorem task_eq_foldl_steps (history : History) :
    history.task
      = history.steps.foldl (fun task step => (step.take task).2) (.empty history.kind) := by
  induction history with
  | start kind => rfl
  | merge before fragment inductionHypothesis
  | absorb before other inductionHypothesis _
  | render before service inductionHypothesis =>
      rw [task, steps, List.foldl_append, kind, ← inductionHypothesis]
      rfl

/-- The task is what merging the fragments of its own steps one after the other comes to. -/
theorem task_eq_foldl_merged (history : History) :
    history.task = history.merged.foldl ArtifactTask.merge (.empty history.kind) := by
  rw [task_eq_foldl_steps, TaskStep.foldl_take, merged]
  rfl

theorem holds_of_mem_fragments
    {history : History}
    {fragment : SourceFile}
    (member : fragment ∈ history.fragments) :
    history.task.Holds fragment := by
  rw [task_eq_foldl_fragments]
  exact ArtifactTask.holds_foldl_merge member _

theorem holds_of_mem_merged
    {history : History}
    {fragment : SourceFile}
    (member : fragment ∈ history.merged) :
    history.task.Holds fragment := by
  rw [task_eq_foldl_merged]
  exact ArtifactTask.holds_foldl_merge member _

/-- What a step that was taken before merges, the task holds. -/
theorem holds_of_mem_steps
    {history : History}
    {step : TaskStep}
    (member : step ∈ history.steps)
    {fragment : SourceFile}
    (merges : step.fragment history.task.kind = .ok fragment) :
    history.task.Holds fragment := by
  rw [task_kind] at merges
  apply holds_of_mem_merged
  apply List.mem_filterMap.mpr
  refine ⟨step, member, ?_⟩
  rw [merges]
  rfl

end History

/-! ### What accumulates -/

/-- A task holds the first occurrences in fragments, in the order in which they come, and nothing
else. -/
structure HoldsFirstOccurrences (fragments : List SourceFile) (task : ArtifactTask) : Prop where
  items : task.items = (fragments.flatMap SourceFile.items).eraseDupsBy Node.sameItem
  attributes : task.attributes
    = (fragments.flatMap SourceFile.attributes).eraseDupsBy Node.sameAttribute

/-- What a step on a task comes to, and the task behind it: the task only grew, by as many
declarations as the step tells, and a step that failed left it as it was. -/
structure TellsGrowth
    (before : ArtifactTask)
    (outcome : Except Failure Nat)
    (after : ArtifactTask) : Prop where
  grows : before.GrowsTo after
  counted : ∀ appended, outcome = .ok appended →
    after.items.length = before.items.length + appended
  failed : ∀ failure, outcome = .error failure → after = before

theorem holdsFirstOccurrences_of_foldl_merge
    {task : ArtifactTask}
    {kind : ArtifactKind}
    {fragments : List SourceFile}
    (folded : task = fragments.foldl ArtifactTask.merge (.empty kind)) :
    HoldsFirstOccurrences fragments task := by
  rw [ArtifactTask.foldl_merge_empty] at folded
  exact ⟨by rw [folded], by rw [folded]⟩

theorem apart_eraseDupsBy
    {α : Type}
    {same : α → α → Bool}
    (likeness : IsLikeness same)
    (elements : List α) :
    ArtifactTask.Apart same (elements.eraseDupsBy same) := by
  rw [← ArtifactTask.appendNew_nil likeness]
  exact ArtifactTask.apart_appendNew List.Pairwise.nil elements

theorem tellsGrowth_take (step : TaskStep) (task : ArtifactTask) :
    TellsGrowth task (step.take task).1 (step.take task).2 := by
  have grows := TaskStep.growsTo_take step task
  rcases TaskStep.take_cases step task with
    ⟨fragment, appended, _, taken, counted⟩ | ⟨failure, _, taken⟩
  · refine ⟨grows, ?_, ?_⟩
    · intro told same
      rw [taken] at same ⊢
      cases same
      exact counted
    · intro failure same
      rw [taken] at same
      cases same
  · refine ⟨grows, ?_, ?_⟩
    · intro told same
      rw [taken] at same
      cases same
    · intro other _
      rw [taken]

/-- A task holds the first occurrences in everything that was merged into it.

This is so of its declarations and of its attributes, whichever steps led to it, those included that
failed and those that absorbed other tasks, and it comes to the same whether an absorbed task counts
as one fragment or as those in its own history. So no two declarations are the same. Every further
step appends, tells how many declarations it appended, and changes nothing where it fails. A
fragment that was merged before appends nothing, and no step does that was taken before. -/
theorem History.holds_first_occurrences (history : History) :
    HoldsFirstOccurrences history.fragments history.task
      ∧ HoldsFirstOccurrences history.merged history.task
      ∧ ArtifactTask.Apart Node.sameItem history.task.items
      ∧ ArtifactTask.Apart Node.sameAttribute history.task.attributes
      ∧ (∀ step : TaskStep,
          TellsGrowth history.task (step.take history.task).1 (step.take history.task).2)
      ∧ (∀ fragment ∈ history.fragments ++ history.merged,
          (TaskStep.merge fragment).take history.task = (.ok 0, history.task))
      ∧ ∀ step ∈ history.steps, ∃ outcome,
          step.take history.task = (outcome, history.task)
            ∧ ∀ appended, outcome = .ok appended → appended = 0 := by
  have ofFragments := holdsFirstOccurrences_of_foldl_merge history.task_eq_foldl_fragments
  have ofMerged := holdsFirstOccurrences_of_foldl_merge history.task_eq_foldl_merged
  refine ⟨ofFragments, ofMerged, ?_, ?_, ?_, ?_, ?_⟩
  · rw [ofFragments.items]
    exact apart_eraseDupsBy Node.sameItem_isLikeness _
  · rw [ofFragments.attributes]
    exact apart_eraseDupsBy Node.sameAttribute_isLikeness _
  · intro step
    exact tellsGrowth_take step history.task
  · intro fragment member
    have holds : history.task.Holds fragment := by
      rcases List.mem_append.mp member with inFragments | inMerged
      · exact holds_of_mem_fragments inFragments
      · exact holds_of_mem_merged inMerged
    obtain ⟨appended, taken, counted⟩ := TaskStep.take_merge fragment history.task
    rw [ArtifactTask.merge_of_holds holds] at taken counted
    have none : appended = 0 := by omega
    rw [taken, none]
  · intro step member
    exact TaskStep.take_of_holds fun _ merges => holds_of_mem_steps member merges

/-! ### A task that absorbs another one -/

/-- Public structures without fields, one for each name. -/
def structuresNamed (names : List String) : SourceFile where
  attributes := []
  items := names.map fun name =>
    .structItem .nil .everywhere name (.genericList false .nil false .absent false) .noFields

/-- A task that repeats a declaration within a fragment, and then absorbs another one that shares a
declaration with it. -/
def overlappingHistory : History :=
  .absorb (.merge (.start .config) (structuresNamed ["A", "B", "A"]))
    (.merge (.merge (.start .config) (structuresNamed ["B", "C"])) (structuresNamed ["C", "D"]))

theorem holds_first_occurrences_of_overlappingHistory :
    overlappingHistory.task.items = (structuresNamed ["A", "B", "C", "D"]).items
      ∧ (TaskStep.merge (structuresNamed ["C", "D"])).take overlappingHistory.task
        = (.ok 0, overlappingHistory.task) := by
  obtain ⟨ofFragments, _, _, _, _, again, _⟩ := overlappingHistory.holds_first_occurrences
  refine ⟨ofFragments.items.trans ?_, again _ (by simp [overlappingHistory, History.fragments])⟩
  rfl

end Scaffold
