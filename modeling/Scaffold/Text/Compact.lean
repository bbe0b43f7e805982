import Scaffold.Text.Blank
import Scaffold.Text.Pieces

/-!
Contract: the compact spelling of a row of tokens printed with blanks between all of them.

Owns:
- the table of replacements, in the order in which they are made.

Every replacement takes blanks away next to a mark and nothing else. The table knows nothing of
tokens: it also acts inside of a string literal.
-/

namespace Scaffold.Text

/-- The pieces that are replaced, and what by, in this order. -/
def compactions : List (String × String) :=
  [(" :: ", "::"), (" ::", "::"), (":: ", "::"), (" ,", ","), (" : ", ": "), ("& ", "&"),
    ("* ", "*"), (" <", "<"), ("< ", "<"), (" >", ">"), ("( ", "("), (" )", ")")]

/-- `text` trimmed and spelled compactly. -/
def compact (text : String) : String :=
  compactions.foldl (fun current rule => replaceAll rule.1 rule.2 current) (trim text)

end Scaffold.Text
