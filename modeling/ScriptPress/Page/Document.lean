import ScriptPress.Page.Error
import ScriptPress.Page.Font
import ScriptPress.Page.Wrap
import ScriptPress.Text.Latin1

/-!
# Documents

A document under construction: pages of drawn lines, and the state that the next call meets. Lengths
are in millimetres and font sizes in points. After a cell the cursor stays at the cell's right edge
on the next line, so that a second cell over the rest of the line finds no room unless the line is
broken first.

## Main definitions

* `Mark` — a drawn line of text.
* `Document` — pages, font, colour and cursor.
* `Cell` — the arguments of a cell of wrapped text.
* `Document.addPage`, `Document.setFont`, `Document.setFontSize`, `Document.setColor`,
  `Document.newLine`, `Document.cell` — the drawing calls.
-/

namespace ScriptPress.Page

open Text

/-! ## Lengths -/

def pageWidth : Binary32 := 210

def pageHeight : Binary32 := 297

def margin : Binary32 := 10

/-- The margin at the bottom that a line must not reach. -/
def breakMargin : Binary32 := 20

/-- The space between the edge of a cell and its text. -/
def padding : Binary32 := 1

def defaultFontSize : Binary32 := 12

def pointsPerMm : Binary32 := 72 / Binary32.ofRatio false 254 10

def lineHeight (fontSize : Binary32) : Binary32 := fontSize * Binary32.ofRatio false 1 2

/-! ## Documents -/

/-- A drawn line: how it is set, where its baseline begins, and its text. The place is in points
from the lower left corner of the page. -/
structure Mark where
  family : FontFamily
  fontSize : Binary32
  color : Color
  x : Binary32
  y : Binary32
  text : List Char
  deriving DecidableEq, Repr

/-- A document under construction. The last page is the one that is drawn on. -/
structure Document where
  pages : List (List Mark)
  family : FontFamily
  fontSize : Binary32
  color : Color
  /-- The cursor, from the left edge. -/
  x : Binary32
  /-- The cursor, from the upper edge. -/
  y : Binary32
  /-- The line height of the last cell. -/
  lastHeight : Binary32
  deriving DecidableEq, Repr

/-- The arguments of a cell of wrapped text. Width 0 asks for the rest of the line. -/
structure Cell where
  width : Binary32
  height : Binary32
  text : List Char
  deriving DecidableEq, Repr

namespace Document

def empty : Document where
  pages := []
  family := .courier
  fontSize := defaultFontSize
  color := .ink
  x := margin
  y := margin
  lastHeight := 0

def addPage (d : Document) : Document :=
  { d with pages := d.pages ++ [[]], x := margin, y := margin }

/-- Another font size; what is not positive changes nothing. -/
def setFontSize (size : Binary32) (d : Document) : Document :=
  if Binary32.lt 0 size then { d with fontSize := size } else d

def setFont (family : FontFamily) (size : Binary32) (d : Document) : Document :=
  setFontSize size { d with family := family }

def setColor (color : Color) (d : Document) : Document := { d with color := color }

/-- The cursor at the left margin and further down, by the last cell's height unless one is
given. -/
def newLine (height : Option Binary32) (d : Document) : Document :=
  { d with x := margin, y := d.y + height.getD d.lastHeight }

/-! ## Cells -/

def charWidth (d : Document) : Binary32 :=
  Binary32.ofNat d.family.advance / 1000 * d.fontSize / pointsPerMm

def sizeInMm (d : Document) : Binary32 := d.fontSize / pointsPerMm

/-- The pages with one mark more on the last of them. -/
def drawOnLast (mark : Mark) : List (List Mark) → List (List Mark)
  | [] => []
  | [page] => [page ++ [mark]]
  | page :: pages => page :: drawOnLast mark pages

/-- A line of text in a box with the upper left corner at `x` and the cursor's height. An empty line
leaves no mark. -/
def drawLine (x height : Binary32) (text : List Char) (d : Document) : Document :=
  if text = [] then d
  else
    let baseline := d.y + height / 2 + d.sizeInMm * Binary32.ofRatio false 3 10
    let mark : Mark :=
      ⟨d.family, d.fontSize, d.color, x * pointsPerMm, (pageHeight - baseline) * pointsPerMm, text⟩
    { d with pages := drawOnLast mark d.pages }

/-- A new page if a line of the given height would reach into the bottom margin. -/
def breakPage (height : Binary32) (d : Document) : Document :=
  if Binary32.lt (pageHeight - breakMargin) (d.y + height) then d.addPage else d

/-- One line of a cell, and the cursor below it. -/
def cellLine (x height : Binary32) (d : Document) (text : List Char) : Document :=
  let d := (d.breakPage height).drawLine x height text
  { d with y := d.y + height }

/-- The first character of a text that has no byte, and its place. -/
def firstUnencodable? (s : List Char) : Option (Nat × Char) :=
  match s.findIdx? (!isLatin1 ·) with
  | some i => (s[i]?).map fun c => (i, c)
  | none => none

/-- The width of a cell: what is left of the line where none is asked for. -/
def cellWidth (width : Binary32) (d : Document) : Binary32 :=
  if Binary32.le width 0 then pageWidth - margin - d.x else width

/-- The line height of a cell: by the font where none is asked for. -/
def cellHeight (height : Binary32) (d : Document) : Binary32 :=
  if Binary32.lt 0 height then height else d.sizeInMm * Binary32.ofRatio false 5 4

def usableWidth (width : Binary32) : Binary32 := width - 2 * padding

/-- A cell of wrapped text, on new pages where the current one is full. The cursor ends at the
cell's right edge below its last line. A cell that fails draws nothing. -/
def cell (c : Cell) (d : Document) : Except DrawError Document :=
  if d.pages = [] then .error .noPageOpen
  else
    let text := prepare c.text
    match firstUnencodable? text with
    | some (index, ch) => .error (.encoding ch index d.family.baseFont)
    | none =>
      let width := d.cellWidth c.width
      if Binary32.lt (usableWidth width) d.charWidth then .error (.notEnoughSpace width)
      else
        let height := d.cellHeight c.height
        let lines := wrap (usableWidth width / d.charWidth).floorNat text
        let drawn := lines.foldl (cellLine (d.x + padding) height) d
        .ok { drawn with x := d.x + width, lastHeight := height }

end Document

end ScriptPress.Page
