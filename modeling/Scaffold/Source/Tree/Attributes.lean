import Scaffold.Source.StringLiteral
import Scaffold.Source.Tree

/-!
Contract: what attributes hold.

Owns:
- the path of an attribute and the text that it is set to.
-/

namespace Scaffold.Source.Node

/-- The path of an attribute. -/
def attributePath : Node .attribute → PlainPath
  | .pathAttribute _ path => path
  | .listAttribute _ path _ _ => path
  | .valueAttribute _ path _ => path

/-- The text that the attribute of the given name is set to, where that is a string literal. -/
def attributeText? (name : String) : Node .attribute → Option String
  | .valueAttribute _ path (.literalExpr text) =>
      if path = ⟨false, [name]⟩ then StringLiteral.value? text else none
  | _ => none

end Scaffold.Source.Node
