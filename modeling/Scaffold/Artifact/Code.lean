import Scaffold.Interface.Method

/-!
Contract: indented text in lines.

Owns:
- the parts that a line is made of;
- lines put below each other, deeper under a head line, and between an opening and a closing
  line;
- the text that the lines make.

An empty line stays empty however deep it stands.
-/

namespace Scaffold.Artifact

/-- A part of a line. -/
inductive Piece where
  /-- What is the same in every text. -/
  | fixed (text : String)
  /-- An identifier, which may run on into what follows. -/
  | name (text : String)
  /-- Letters, digits and underscores in the middle of an identifier. -/
  | inner (text : String)
  /-- What stands inside of a string and holds nothing that would end it. -/
  | prose (text : String)
  /-- Whole tokens. -/
  | code (text : String)
  deriving DecidableEq, Repr

instance : Coe String Piece := ⟨.fixed⟩

/-- The text of a part. -/
def Piece.text : Piece → String
  | .fixed text | .name text | .inner text | .prose text | .code text => text

/-- A line. -/
abbrev Line := List Piece

instance : Coe String Line := ⟨fun text => [.fixed text]⟩

/-- The text of a line. -/
def Line.text (line : Line) : String :=
  String.join (line.map Piece.text)

/-- Lines of text. -/
structure Code where
  lines : List Line
  deriving DecidableEq, Repr, Inhabited

namespace Code

/-- One line. -/
def line (content : Line) : Code := ⟨[content]⟩

instance : Coe String Code := ⟨fun text => line text⟩

/-- Parts below each other. -/
def all (parts : List Code) : Code :=
  ⟨parts.flatMap Code.lines⟩

/-- The blanks that one level of depth adds. -/
def margin : String := "    "

/-- Parts one level deeper. -/
def deeper (parts : List Code) : Code :=
  ⟨(parts.flatMap Code.lines).map fun content =>
    if content.text = "" then content else .fixed margin :: content⟩

/-- Parts one level deeper under a head line. -/
def hang (head : Line) (body : List Code) : Code :=
  .all [line head, deeper body]

/-- Parts one level deeper between an opening and a closing line. -/
def nest (opening : Line) (body : List Code) (closing : Line) : Code :=
  .all [line opening, deeper body, line closing]

/-- A block in braces behind its head. -/
def block (head : Line) (body : List Code) : Code :=
  .nest (head ++ [.fixed " \x7b"]) body "\x7d"

/-- A conditional with an alternative, and what closes it. -/
def either (head : Line) (body otherwise : List Code) (closing : Line) : Code :=
  .all [line (head ++ [.fixed " \x7b"]), deeper body, "\x7d else \x7b", deeper otherwise,
    line closing]

/-- Parts that are there if the condition holds. -/
def when (condition : Bool) (body : List Code) : Code :=
  .all (if condition then body else [])

/-- The parts that each of the elements makes. -/
def each {α : Type} (elements : List α) (parts : α → List Code) : Code :=
  .all (elements.flatMap parts)

/-- A block in braces whose parts stand apart by empty lines; one without parts is one line. -/
def members (head : Line) (parts : List Code) : Code :=
  match parts with
  | [] => line (head ++ [.fixed " \x7b\x7d"])
  | _ :: _ => .block head (parts.intersperse "")

/-- The text of parts below each other. -/
def text (parts : List Code) : String :=
  joinedBy "\n" ((all parts).lines.map Line.text) ++ "\n"

end Code

end Scaffold.Artifact
