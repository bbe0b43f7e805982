import Scaffold.Interface.Extraction
import Scaffold.Source.Tree.Attributes
import Scaffold.Text.Blank

/-!
Contract: what the declarations of a source file say about services.

Owns:
- the documentation text of a declaration;
- the declarations of types among the items of a file;
- the part of a trait that its interface depends on.
-/

namespace Scaffold

open Source

/-! ## Documentation -/

/-- The documentation text of a declaration with the given attributes: its documentation lines, each
of them trimmed, and all of it trimmed again. -/
def docText (attributes : List (Node .attribute)) : String :=
  Text.trim (joinedBy "\n" ((attributes.filterMap (Node.attributeText? "doc")).map Text.trim))

/-! ## Declarations of types -/

/-- The sorts of declarations that name a type. -/
inductive TypeSort where
  | trait
  | struct
  | enum
  | union
  | typeAlias
  deriving DecidableEq, Repr

/-- The sort in words. -/
def TypeSort.text : TypeSort → String
  | .trait => "trait"
  | .struct => "struct"
  | .enum => "enum"
  | .union => "union"
  | .typeAlias => "type alias"

/-- Does the signature have a receiver? -/
def hasReceiver : Node .signature → Bool
  | .functionSignature _ _ _ parameters _ _ =>
      match parameters.toList with
      | first :: _ => isReceiver first
      | [] => false

/-- The name that a signature declares. -/
def signatureName : Node .signature → String
  | .functionSignature _ name _ _ _ _ => name

/-- The signatures of the methods with a receiver among the items of a trait. -/
def methodSignatures (items : List (Node .item)) : List (Node .signature) :=
  items.filterMap fun
    | .functionItem _ _ _ signature _ => if hasReceiver signature then some signature else none
    | _ => none

/-- Does one of the attributes ask for async methods to be boxed? -/
def asksForAsyncTrait (attributes : List (Node .attribute)) : Bool :=
  attributes.any fun candidate =>
    candidate.attributePath.names.getLast? == some "async_trait"

/-- A declaration of a type. -/
structure TypeDeclaration where
  name : String
  sort : TypeSort
  attributes : List (Node .attribute)
  /-- The signatures of a trait's methods; none for other sorts. -/
  signatures : List (Node .signature)

/-- The declaration of a type that an item is, if it is one. The inner attributes of a trait stand
behind the outer ones. -/
def TypeDeclaration.ofItem? : Node .item → Option TypeDeclaration
  | .traitItem attributes _ _ _ name _ _ _ _ inner items =>
      some ⟨name, .trait, attributes.toList ++ inner.toList, methodSignatures items.toList⟩
  | .structItem attributes _ name _ _ => some ⟨name, .struct, attributes.toList, []⟩
  | .enumItem attributes _ name _ _ _ => some ⟨name, .enum, attributes.toList, []⟩
  | .unionItem attributes _ name _ _ => some ⟨name, .union, attributes.toList, []⟩
  | .typeItem attributes _ name _ _ => some ⟨name, .typeAlias, attributes.toList, []⟩
  | _ => none

/-- The part of a declared trait that its interface depends on. -/
def TypeDeclaration.serviceTrait (declaration : TypeDeclaration) : ServiceTrait :=
  ⟨declaration.name, declaration.signatures, asksForAsyncTrait declaration.attributes⟩

/-- The part of a trait that its interface depends on. -/
def ServiceTrait.ofItem? (item : Node .item) : Option ServiceTrait :=
  (TypeDeclaration.ofItem? item).bind fun declaration =>
    if declaration.sort = .trait then some declaration.serviceTrait else none

end Scaffold
