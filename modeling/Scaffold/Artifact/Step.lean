import Scaffold.Artifact.Rendering

/-!
Contract: the steps in which the declarations of one generated file accumulate.

Owns:
- the merge of a fragment, the absorption of another task and the rendering of a service, as steps
  that change a task;
- the number of declarations that a step appends, counted while it appends them.

A text that is no source is found before the task is touched, so a step that fails changes nothing.
-/

namespace Scaffold

open Source

namespace ArtifactTask

/-- Put those elements behind a list that it does not hold yet, each once, and count them on top of
those that were `appended` before. -/
def appendCounting
    {α : Type}
    (same : α → α → Bool)
    (held : List α)
    (appended : Nat) :
    List α → List α × Nat
  | [] => (held, appended)
  | element :: rest =>
      if held.any fun old => same old element then appendCounting same held appended rest
      else appendCounting same (held ++ [element]) (appended + 1) rest

/-- Merge a fragment into the task. Returns how many declarations were appended. -/
def mergeCounting (fragment : SourceFile) : StateM ArtifactTask Nat := do
  let task ← get
  let attributes := appendNew Node.sameAttribute task.attributes fragment.attributes
  let (items, appended) := appendCounting Node.sameItem task.items 0 fragment.items
  set { task with attributes, items }
  return appended

end ArtifactTask

/-- What may be done to a task. -/
inductive TaskStep where
  /-- A fragment is merged into it. -/
  | merge (fragment : SourceFile)
  /-- It absorbs what another task accumulated. -/
  | absorb (other : ArtifactTask)
  /-- The text of its kind for a service is merged into it. -/
  | render (service : Service)

namespace TaskStep

/-- Do a step. Returns how many declarations were appended. -/
def run : TaskStep → ExceptT Failure (StateM ArtifactTask) Nat
  | merge fragment => (ArtifactTask.mergeCounting fragment : StateM ArtifactTask Nat)
  | absorb other => (ArtifactTask.mergeCounting other.toFile : StateM ArtifactTask Nat)
  | render service => do
      let task ← get
      match task.kind.reparse (task.kind.render service) with
      | .error failure => throw failure
      | .ok fragment => (ArtifactTask.mergeCounting fragment : StateM ArtifactTask Nat)

/-- What a step on a task comes to, and the task that it leaves. -/
def take (step : TaskStep) (task : ArtifactTask) : Except Failure Nat × ArtifactTask :=
  step.run.run.run task

end TaskStep

end Scaffold
