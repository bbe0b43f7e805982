import Scaffold.Artifact.Kind
import Scaffold.Source.Reading
import Scaffold.Source.Tree.Tokens

/-!
Contract: the declarations that accumulate in one generated file.

Owns:
- the merge of a fragment, which leaves out what is there already;
- the absorption of what another task accumulated.
-/

namespace Scaffold

open Source

/-- What has accumulated for the file of one kind: the attributes of the file and its
declarations, in the order in which they came. -/
structure ArtifactTask where
  kind : ArtifactKind
  attributes : List (Node .attribute)
  items : List (Node .item)

namespace ArtifactTask

/-- The task of a kind before anything was merged. -/
def empty (kind : ArtifactKind) : ArtifactTask :=
  ⟨kind, [], []⟩

/-- Has nothing accumulated? -/
def isEmpty (task : ArtifactTask) : Bool :=
  task.items.isEmpty && task.attributes.isEmpty

/-- Put those elements behind a list that it does not hold yet, each once. -/
def appendNew
    {α : Type}
    (same : α → α → Bool)
    (held : List α) :
    List α → List α
  | [] => held
  | element :: rest =>
      if held.any fun old => same old element then appendNew same held rest
      else appendNew same (held ++ [element]) rest

/-- The task with the declarations of a fragment merged into it. -/
def merge
    (task : ArtifactTask)
    (fragment : SourceFile) :
    ArtifactTask where
  kind := task.kind
  attributes := appendNew Node.sameAttribute task.attributes fragment.attributes
  items := appendNew Node.sameItem task.items fragment.items

/-- What has accumulated, as a file. -/
def toFile (task : ArtifactTask) : SourceFile :=
  ⟨task.attributes, task.items⟩

/-- The task with everything merged into it that another one accumulated. -/
def absorb
    (task : ArtifactTask)
    (other : ArtifactTask) :
    ArtifactTask :=
  task.merge other.toFile

end ArtifactTask

end Scaffold
