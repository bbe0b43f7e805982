/-!
Contract: the pieces that a laid out text is made of.

Owns:
- texts, gaps and boxes in one row;
- the gaps that the layout of declarations uses;
- rows separated and ended by commas.

A gap is where a line may end. The gaps of a box that does not fit on its line are broken all
together in a column, and each as needed in a filling. What closes a group that was broken
stands one level further out, so the last gap in front of it is pulled back.
-/

namespace Scaffold.Source.Layout

/-- The blanks of one level of depth. -/
def indentWidth : Nat := 4

/-- A width that fits on no line. -/
def endless : Nat := 0xffff

/-- A place where a line may end. Where it does not end it is `blank` blanks and
`unbrokenMark`; where it does, `closingMark` stands at its end and `openingText` at the
beginning of the next line, which is `offset` further in than its box. -/
structure Gap where
  blank : Nat := 0
  offset : Int := 0
  closingMark : Option Char := none
  openingText : String := ""
  unbrokenMark : Option Char := none
  dropsAtEnd : Bool := false
  neverBreaks : Bool := false
  deriving DecidableEq, Repr

/-- How the gaps of a box break that does not fit: all of them, or those that have to. -/
inductive Breaking where
  | column
  | filling
  deriving DecidableEq, Repr

/-- A piece of a laid out text; `bulk` is invisible and fits on no line. -/
inductive Piece where
  | text (text : String)
  | gap (gap : Gap)
  | opening (indent : Int) (breaking : Breaking)
  | closing
  | bulk
  deriving DecidableEq, Repr

/-! ## Texts and gaps -/

/-- A text. -/
def word (text : String) : List Piece :=
  [.text text]

/-- A text that is there if the condition holds. -/
def wordIf (condition : Bool) (text : String) : List Piece :=
  if condition then word text else []

/-- A blank that ends no line. -/
def blank : List Piece :=
  word " "

/-- A gap that is nothing on one line. -/
def seam : List Piece :=
  [.gap {}]

/-- A gap that is a blank on one line. -/
def space : List Piece :=
  [.gap { blank := 1 }]

/-- A blank on one line, and nothing at the end of a box. -/
def spaceUnlessLast : List Piece :=
  [.gap { blank := 1, dropsAtEnd := true }]

/-- The end of a line. -/
def newline : List Piece :=
  [.gap { blank := endless }]

/-- The end of a line, and nothing at the end of a box. -/
def newlineUnlessLast : List Piece :=
  [.gap { blank := endless, dropsAtEnd := true }]

/-- A gap that never ends a line. The measure of the gap in front of it stops here. -/
def joint : List Piece :=
  [.gap { neverBreaks := true }]

/-- What follows an element in a list: a comma, which the last element has only in front of
the end of a line. -/
def comma (isLast : Bool) : List Piece :=
  if isLast then [.gap { closingMark := some ',' }] else word "," ++ space

/-- What follows an element in a list whose ends are spaced. -/
def spacedComma (isLast : Bool) : List Piece :=
  if isLast then [.gap { blank := 1, closingMark := some ',' }] else word "," ++ space

/-! ## Boxes -/

/-- Pull the gap at the end of a row back by one level. -/
def pulledBack : List Piece → List Piece
  | [] => []
  | [.gap gap] => [.gap { gap with offset := gap.offset - indentWidth }]
  | piece :: rest => piece :: pulledBack rest

/-- A row without the gap at its end, if that is one which drops there. -/
def withoutLastGap : List Piece → List Piece
  | [] => []
  | [.gap gap] => if gap.dropsAtEnd then [] else [.gap gap]
  | piece :: rest => piece :: withoutLastGap rest

/-- A box around a row. A box with nothing in it but a gap is nothing. -/
def box
    (breaking : Breaking)
    (indent : Int) :
    List Piece → List Piece
  | [.gap _] => []
  | body => .opening indent breaking :: withoutLastGap body ++ [.closing]

/-- A box whose gaps break together. -/
def column (indent : Int) (body : List Piece) : List Piece :=
  box .column indent body

/-- A box whose gaps break as needed. -/
def filling (indent : Int) (body : List Piece) : List Piece :=
  box .filling indent body

/-- A box whose gaps break together, one level further in. -/
def deeper (body : List Piece) : List Piece :=
  column indentWidth body

/-- A box whose gaps break together, one level further out. -/
def shallower (body : List Piece) : List Piece :=
  column (-indentWidth) body

/-- The width of a piece on one line. -/
def Piece.width : Piece → Nat
  | .text content => content.utf8ByteSize
  | .gap place => place.blank
  | .opening _ _ => 0
  | .closing => 0
  | .bulk => endless

/-- The width of a row on one line. -/
def width (row : List Piece) : Nat :=
  row.foldl (fun total piece => total + piece.width) 0

/-- Does the last text of a row end in a dot? Nothing but texts counts. -/
def endsInDot (row : List Piece) : Bool :=
  row.foldl
    (fun found piece =>
      match piece with
      | .text content => content.endsWith "."
      | _ => found)
    false

/-- Does the first text of the row begin with two dots? -/
def beginsInDots : List Piece → Bool
  | [] => false
  | .text content :: _ => content.startsWith ".."
  | _ :: rest => beginsInDots rest

/-- A row behind two dots: a blank keeps two dots of its own apart from them. -/
def behindDots (row : List Piece) : List Piece :=
  if beginsInDots row then blank ++ row else row

/-- The greatest width of a box of members that stays on one line. -/
def shortWidth : Nat := 34

/-- The row of a box that is broken already where it is not short. -/
def broughtToBreak (body : List Piece) : List Piece :=
  if width body > shortWidth then body ++ [.bulk] else body

/-! ## Rows of elements -/

/-- Elements, each with what stands behind it; `behind` is told which of them is the last. -/
def followed
    (behind : Bool → List Piece) :
    List (List Piece) → List Piece
  | [] => []
  | [last] => last ++ behind true
  | row :: rest => row ++ behind false ++ followed behind rest

/-- Elements with commas, the last of which is there only in front of the end of a line. -/
def commas (rows : List (List Piece)) : List Piece :=
  followed comma rows

/-- Elements with separators between them. -/
def separatedBy
    (separator : List Piece)
    (rows : List (List Piece)) :
    List Piece :=
  followed (fun isLast => if isLast then [] else separator) rows

/-- Elements with commas between them in a box of their own, one level further in. -/
def boxedList (rows : List (List Piece)) : List Piece :=
  deeper (pulledBack (seam ++ commas rows))

/-- Elements of a tuple between parentheses: one alone keeps its comma. -/
def tuple (rows : List (List Piece)) : List Piece :=
  word "("
    ++ (match rows with
        | [row] => deeper (pulledBack (seam ++ row ++ word "," ++ seam))
        | _ => boxedList rows)
    ++ word ")"

/-- Bounds behind a lead, with plus signs between them where a line may end. -/
def bounds
    (lead : List Piece)
    (rows : List (List Piece)) :
    List Piece :=
  match rows with
  | [] => []
  | _ :: _ => lead ++ separatedBy (space ++ word "+ ") rows

/-- An optional part behind a lead. -/
def led
    (lead : List Piece)
    (row : Option (List Piece)) :
    List Piece :=
  match row with
  | some pieces => lead ++ pieces
  | none => []

end Scaffold.Source.Layout
