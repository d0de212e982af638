import ScriptPress.Page.Backend

/-!
# A backend that draws nothing

It keeps a log of the calls that reach it, moves the cursor, and answers cells as prepared. It
serves to look at what patches do.

## Main definitions

* `Recorder`, `Recorder.backend` — the state and the calls.
-/

namespace ScriptPress.Page

/-- What the backend has seen, and what it will answer. -/
structure Recorder where
  x : Binary32
  pageWidth : Binary32
  rightMargin : Binary32
  /-- Where the cursor goes on a new line. -/
  newLineX : Binary32
  /-- The errors of the cells to come; `none` and what lies behind the last one succeeds. -/
  answers : List (Option DrawError)
  log : List Command
  deriving Repr

namespace Recorder

def note (command : Command) (r : Recorder) : Recorder := { r with log := r.log ++ [command] }

/-- A cell: it moves the cursor by its width unless an error is prepared for it. -/
def drawCell (c : Cell) (r : Recorder) : Except DrawError Unit × Recorder :=
  let seen := { r.note (.cell c) with answers := r.answers.tail }
  match r.answers.head?.join with
  | some e => (.error e, seen)
  | none => (.ok (), { seen with x := r.x + c.width })

def backend : Backend Recorder where
  addPage := note .addPage
  setFont family size := note (.setFont family size)
  setFontSize size := note (.setFontSize size)
  setColor color := note (.setColor color)
  pageWidth r := r.pageWidth
  rightMargin r := r.rightMargin
  x r := r.x
  newLine height r := { r.note (.newLine height) with x := r.newLineX }
  cell := drawCell

end Recorder

end ScriptPress.Page
