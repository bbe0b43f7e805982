import Scaffold.Source.Layout.Piece

/-!
Contract: the text that a row of pieces makes on a page of limited width.

Owns:
- the measure of boxes and gaps;
- the choice of the gaps that end a line.

A box is as wide as everything from its opening to the next gap behind it, and a gap as
everything from it to the next gap of its own level or of one further out. A box that fits on
the rest of its line keeps all its gaps; a gap of a filling keeps if what it leads to fits.
-/

namespace Scaffold.Source.Layout

/-- The width of a line. -/
def pageWidth : Int := 89

/-- The least width of a line that begins far in. -/
def leastWidth : Int := 60

/-! ## Measure -/

/-- What is known of the row behind a place: its width, and the width from the next gap on,
for each level of boxes that is open there. -/
structure Behind where
  total : Nat
  gaps : List Nat
  deriving Repr

/-- The width from the next gap on, at the innermost level. -/
def Behind.next (behind : Behind) : Nat :=
  behind.gaps.headD 0

/-- The size of a piece in front of a row, and what is then known of the row with it. -/
def Piece.measured
    (piece : Piece)
    (behind : Behind) :
    Nat × Behind :=
  let total := piece.width + behind.total
  match piece with
  | .text _ => (piece.width, ⟨total, behind.gaps⟩)
  | .bulk => (piece.width, ⟨total, behind.gaps⟩)
  | .gap _ => (total - behind.next, ⟨total, total :: behind.gaps.tail⟩)
  | .closing => (0, ⟨total, behind.next :: behind.gaps⟩)
  | .opening _ _ =>
      let outer := behind.gaps.tail
      (total - outer.headD 0, ⟨total, outer⟩)

/-- The pieces of a row with their sizes, and what is known of the whole row. -/
def measure : List Piece → List (Piece × Nat) × Behind
  | [] => ([], ⟨0, [0]⟩)
  | piece :: rest =>
      let (sized, behind) := measure rest
      let (size, whole) := piece.measured behind
      ((piece, size) :: sized, whole)

/-! ## Lines -/

/-- An open box: one that fits, or one that is broken, with the indent of the lines around it. -/
inductive Frame where
  | fits
  | broken (outerIndent : Int) (breaking : Breaking)
  deriving DecidableEq, Repr

/-- A page as far as it is written: the text, the room left on the line, the indent of the
lines in the innermost box, the blanks that stand in front of the next text, and the open
boxes. -/
structure Page where
  text : String
  room : Int
  indent : Int
  pending : Nat
  frames : List Frame

namespace Page

/-- The page before anything is written. -/
def empty : Page :=
  ⟨"", pageWidth, 0, 0, []⟩

/-- Write the blanks that are due. -/
def settle (page : Page) : Page :=
  { page with
    text := page.text ++ String.ofList (List.replicate page.pending ' ')
    pending := 0 }

/-- Write a text. -/
def write (page : Page) (text : String) : Page :=
  let settled := page.settle
  { settled with text := settled.text ++ text, room := settled.room - text.utf8ByteSize }

/-- Go on with the line at a gap. -/
def keep (page : Page) (gap : Gap) : Page :=
  let widened :=
    { page with pending := page.pending + gap.blank, room := page.room - gap.blank }
  match gap.unbrokenMark with
  | some mark =>
      { widened with text := widened.text.push mark, room := widened.room - mark.utf8Size }
  | none => widened

/-- End the line at a gap. -/
def endLine (page : Page) (gap : Gap) : Page :=
  let ended :=
    match gap.closingMark with
    | some mark =>
        let settled := page.settle
        { settled with text := settled.text.push mark }
    | none => page
  let indent := page.indent + gap.offset
  let begun :=
    { ended with
      text := ended.text.push '\n'
      pending := indent.toNat
      room := max (pageWidth - indent) leastWidth }
  if gap.openingText.isEmpty then begun else begun.write gap.openingText

/-- Does a gap of the given size keep its line? -/
def keeps (page : Page) (gap : Gap) (size : Nat) : Bool :=
  gap.neverBreaks
    || match page.frames with
      | .fits :: _ => true
      | .broken _ .column :: _ => false
      | .broken _ .filling :: _ => size ≤ page.room
      | [] => size ≤ page.room

/-- Open a box of the given size. -/
def openBox (page : Page) (indent : Int) (breaking : Breaking) (size : Nat) : Page :=
  if size ≤ page.room then
    { page with frames := .fits :: page.frames }
  else
    { page with
      frames := .broken page.indent breaking :: page.frames
      indent := page.indent + indent }

/-- Close the innermost box. -/
def closeBox (page : Page) : Page :=
  match page.frames with
  | [] => page
  | .fits :: frames => { page with frames }
  | .broken indent _ :: frames => { page with indent, frames }

/-- Put a piece of the given size on the page. -/
def put (page : Page) (piece : Piece × Nat) : Page :=
  match piece with
  | (.text text, _) => page.write text
  | (.bulk, _) => page.settle
  | (.gap gap, size) => if page.keeps gap size then page.keep gap else page.endLine gap
  | (.opening indent breaking, size) => page.openBox indent breaking size
  | (.closing, _) => page.closeBox

end Page

/-- The text of a row of pieces. Blanks at its end are not written. -/
def textOf (row : List Piece) : String :=
  ((measure row).1.foldl Page.put .empty).text

end Scaffold.Source.Layout
