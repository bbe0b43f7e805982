import Scaffold.Artifact.Kind
import Scaffold.Files.Fault

/-!
Contract: the ways in which a generation run, or one interface of it, fails.

Owns:
- the causes, their codes and their messages;
- the line between failures of one interface and failures of the whole run.
-/

namespace Scaffold

/-- The place in a method of something that has no supported type. -/
inductive TypePosition where
  /-- The pattern of the typed parameter with this number, counted from one. -/
  | argumentPattern (number : Nat)
  /-- The type of the named parameter. -/
  | argument (name : String)
  /-- The result with this number, counted from one. -/
  | returnValue (number : Nat)
  deriving DecidableEq, Repr

/-- The place in words. -/
def TypePosition.text : TypePosition → String
  | .argumentPattern number => s!"argument pattern #{number}"
  | .argument name => "argument `" ++ name ++ "`"
  | .returnValue number => s!"return value #{number}"

/-- The causes of failure. -/
inductive Failure where
  /-- The source file cannot be read. -/
  | inputRead (path : Path) (fault : Fault)
  /-- The source file does not parse. -/
  | parse (path : Path)
  /-- A parameter or result has a type that is not a name. -/
  | unsupportedType (interface : String) (method : String) (position : TypePosition)
      (found : String)
  /-- Two methods of an interface share a name. -/
  | duplicateMethod (interface : String) (method : String)
  /-- The template of a kind does not run, which none does. -/
  | templateExecution (kind : ArtifactKind)
  /-- The generated text of a kind does not parse. -/
  | renderedOutputParse (kind : ArtifactKind)
  /-- A directory for generated files cannot be made. -/
  | directoryCreate (path : Path) (fault : Fault)
  /-- A generated file cannot be written. -/
  | fileWrite (path : Path) (fault : Fault)
  deriving DecidableEq, Repr

namespace Failure

/-- The number that stands for a cause. -/
def code : Failure → Nat
  | .inputRead _ _ => 1
  | .parse _ => 2
  | .unsupportedType _ _ _ _ => 3
  | .duplicateMethod _ _ => 4
  | .templateExecution _ => 5
  | .renderedOutputParse _ => 6
  | .directoryCreate _ _ => 7
  | .fileWrite _ _ => 8

/-- Does the failure end one interface only, and not the run? -/
def isJobScoped : Failure → Bool
  | .unsupportedType _ _ _ _ => true
  | .duplicateMethod _ _ => true
  | .templateExecution _ => true
  | .renderedOutputParse _ => true
  | .inputRead _ _ => false
  | .parse _ => false
  | .directoryCreate _ _ => false
  | .fileWrite _ _ => false

/-- The cause in words. -/
def message : Failure → String
  | .inputRead path _ => "failed to read " ++ path.text
  | .parse path => "failed to parse " ++ path.text
  | .unsupportedType interface method position found =>
      "unsupported type in " ++ interface ++ "::" ++ method ++ " (" ++ position.text ++ "): `"
        ++ found ++ "`"
  | .duplicateMethod interface method =>
      "duplicate method `" ++ method ++ "` in interface " ++ interface
  | .templateExecution kind => "template `" ++ kind.template ++ "` failed to execute"
  | .renderedOutputParse kind => "template `" ++ kind.template ++ "` rendered invalid source"
  | .directoryCreate path _ => "failed to create directory " ++ path.text
  | .fileWrite path _ => "failed to write " ++ path.text

end Failure

end Scaffold
