import ScriptPress.Page.Document

/-!
# Drawing backends and their patches

Pasted scripts do two things that a document refuses: they ask for the rest of the line twice in a
row, and they draw characters that the standard fonts lack. Two patches smooth this over. Each wraps
a backend, whatever it is, and changes how it draws cells.

## Main definitions

* `Backend` — the drawing calls over a state of any type.
* `Command`, `Backend.run` — a drawing call as data.
* `Backend.draw`, `Backend.drawEach` — drawing calls one after the other.
* `Document.backend` — documents as a backend.
* `zeroWidthCell`, `encodingFallback` — the patches.
* `PatchSet`, `PatchSet.apply` — which patches are on.
-/

namespace ScriptPress.Page

open Text

/-- The drawing calls over states of type `σ`. A cell may fail, and may change the state even
then. -/
structure Backend (σ : Type) where
  addPage : σ → σ
  setFont : FontFamily → Binary32 → σ → σ
  setFontSize : Binary32 → σ → σ
  setColor : Color → σ → σ
  pageWidth : σ → Binary32
  rightMargin : σ → Binary32
  x : σ → Binary32
  newLine : Option Binary32 → σ → σ
  cell : Cell → σ → Except DrawError Unit × σ

inductive Command where
  | addPage
  | setFont (family : FontFamily) (size : Binary32)
  | setFontSize (size : Binary32)
  | setColor (color : Color)
  | newLine (height : Option Binary32)
  | cell (cell : Cell)
  deriving DecidableEq, Repr

namespace Backend

variable {σ : Type}

def run (b : Backend σ) (command : Command) (s : σ) : Except DrawError Unit × σ :=
  match command with
  | .addPage => (.ok (), b.addPage s)
  | .setFont family size => (.ok (), b.setFont family size s)
  | .setFontSize size => (.ok (), b.setFontSize size s)
  | .setColor color => (.ok (), b.setColor color s)
  | .newLine height => (.ok (), b.newLine height s)
  | .cell c => b.cell c s

/-- Carries out drawing calls until one fails. -/
def draw (b : Backend σ) : List Command → σ → Except DrawError Unit × σ
  | [], s => (.ok (), s)
  | command :: commands, s =>
    match b.run command s with
    | (.ok (), s) => draw b commands s
    | (.error e, s) => (.error e, s)

/-- Carries out drawing calls; what fails is passed over. -/
def drawEach (b : Backend σ) (commands : List Command) (s : σ) : σ :=
  commands.foldl (fun s command => (b.run command s).2) s

def remainingWidth (b : Backend σ) (s : σ) : Binary32 := b.pageWidth s - b.rightMargin s - b.x s

end Backend

def Document.backend : Backend Document where
  addPage := Document.addPage
  setFont := Document.setFont
  setFontSize := Document.setFontSize
  setColor := Document.setColor
  pageWidth _ := Page.pageWidth
  rightMargin _ := margin
  x d := d.x
  newLine := Document.newLine
  cell c d :=
    match d.cell c with
    | .ok d' => (.ok (), d')
    | .error e => (.error e, d)

/-! ## Patches -/

/-- The width below which a cell over the rest of the line goes to the next line. -/
def minCellWidth : Binary32 := 5

/-- Gives a cell without a width the rest of the line, of the next line if almost nothing is left
of this one. -/
def zeroWidthCell {σ : Type} (b : Backend σ) : Backend σ :=
  { b with
    cell := fun c s =>
      if Binary32.eq c.width 0 then
        let s := if Binary32.lt (b.remainingWidth s) minCellWidth then b.newLine none s else s
        b.cell { c with width := b.remainingWidth s } s
      else b.cell c s }

/-- Draws a cell once more with question marks when the font lacks a character of it. If that fails
too, the first error stands. -/
def encodingFallback {σ : Type} (b : Backend σ) : Backend σ :=
  { b with
    cell := fun c s =>
      match b.cell c s with
      | (.error e, s') =>
        if e.isEncoding && !c.text.isEmpty then
          match b.cell { c with text := latin1Lossy c.text } s' with
          | (.ok (), s'') => (.ok (), s'')
          | (.error _, s'') => (.error e, s'')
        else (.error e, s')
      | drawn => drawn }

structure PatchSet where
  zeroWidthCell : Bool
  encodingFallback : Bool
  deriving DecidableEq, Repr

namespace PatchSet

def all : PatchSet := ⟨true, true⟩

def none : PatchSet := ⟨false, false⟩

/-- The backend with the patches that are on. The width patch comes first, so that both attempts at
an encoding have the same width. -/
def apply {σ : Type} (p : PatchSet) (b : Backend σ) : Backend σ :=
  let b := if p.encodingFallback then Page.encodingFallback b else b
  if p.zeroWidthCell then Page.zeroWidthCell b else b

end PatchSet

end ScriptPress.Page
