import Scaffold.Directive
import Scaffold.Interface.Declaration
import Scaffold.Package

/-!
Contract: the services that a source file asks to be generated.

Owns:
- the jobs among the declarations of a file;
- the declarations that were passed over, and why.

Only declarations of types at the top of a file are looked at.
-/

namespace Scaffold

open Source

/-- A trait that asks for a service, with the package it stands in. -/
structure Job where
  declaration : ServiceTrait
  package : Package
  directive : Directive

/-- Why a declaration of a type is no job. -/
inductive SkipReason where
  /-- It has no documentation. -/
  | missingDocComment
  /-- It asks for a service and is no trait. -/
  | notAnInterface (sort : TypeSort)
  /-- It is a trait whose documentation does not ask for a service. -/
  | missingMarker
  deriving DecidableEq, Repr

/-- The reason in words. -/
def SkipReason.text : SkipReason → String
  | .missingDocComment => "no doc comment"
  | .notAnInterface sort => "tagged " ++ sort.text ++ " is not a trait"
  | .missingMarker => "doc comment lacks `" ++ Directive.marker ++ "`"

/-- A declaration that was passed over. -/
structure SkippedDeclaration where
  name : String
  reason : SkipReason
  deriving DecidableEq, Repr

/-- What one declaration contributes. -/
inductive Finding where
  | nothing
  | skipped (declaration : SkippedDeclaration)
  | job (job : Job)

/-- What a declaration of a type contributes. -/
def Finding.ofDeclaration
    (package : Package)
    (declaration : TypeDeclaration) :
    Finding :=
  let doc := docText declaration.attributes
  if doc.isEmpty then .skipped ⟨declaration.name, .missingDocComment⟩
  else
    match declaration.sort, Directive.parse? doc with
    | .trait, some directive => .job ⟨declaration.serviceTrait, package, directive⟩
    | .trait, none => .skipped ⟨declaration.name, .missingMarker⟩
    | sort, some _ => .skipped ⟨declaration.name, .notAnInterface sort⟩
    | _, none => .nothing

/-- What an item contributes. -/
def Finding.ofItem
    (package : Package)
    (item : Node .item) :
    Finding :=
  match TypeDeclaration.ofItem? item with
  | some declaration => .ofDeclaration package declaration
  | none => .nothing

/-- The job that was found, if it is one. -/
def Finding.job? : Finding → Option Job
  | .job found => some found
  | _ => none

/-- The declaration that was passed over, if one was. -/
def Finding.skipped? : Finding → Option SkippedDeclaration
  | .skipped declaration => some declaration
  | _ => none

/-- Everything that was found in a file, in the order of the source. -/
structure Discovery where
  jobs : List Job
  skipped : List SkippedDeclaration

/-- What is found among items. -/
def Discovery.ofItems
    (package : Package)
    (items : List (Node .item)) :
    Discovery :=
  let findings := items.map (Finding.ofItem package)
  ⟨findings.filterMap Finding.job?, findings.filterMap Finding.skipped?⟩

end Scaffold
