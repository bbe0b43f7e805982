import Scaffold.Artifact.Task
import Scaffold.Source.Layout.Tree

/-!
Contract: the content of a generated file.

Owns:
- the notice that every generated file begins with;
- the text of what a task has accumulated.
-/

namespace Scaffold

/-- The first line of every generated file, and the empty line behind it. -/
def generatedNotice : String :=
  "// Code generated by servicegen. DO NOT EDIT.\n\n"

/-- The content of the file of a task. -/
def ArtifactTask.content (task : ArtifactTask) : String :=
  generatedNotice ++ task.toFile.text

end Scaffold
