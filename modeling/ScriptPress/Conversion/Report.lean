import ScriptPress.Conversion.Session
import ScriptPress.Page.File
import ScriptPress.Text.Latin1

/-!
# Typeset documents

The documents that a request draws itself: the error report and the page that shows what a script
printed.

## Main definitions

* `Diagnosis.report` — the error line in red, a gap, and the source as it was given.
* `printout` — printed text as a document.
* `Conversion.writeReport`, `Conversion.writePrintout` — the documents in the store.
-/

namespace ScriptPress

open Page Text

/-- The name of a document of printed text, and the argument for functions that are called by
themselves. -/
def printoutName : String := "output.pdf"

def reportName : String := "error_report.pdf"

def documentFontSize (fontSize : Option UInt32) : Binary32 :=
  match fontSize with
  | some size => .ofNat size.toNat
  | none => defaultFontSize

def restOfLine (fontSize : Binary32) (text : List Char) : Command :=
  .cell ⟨0, Page.lineHeight fontSize, text⟩

/-! ## The error report -/

def reportGap : Binary32 := 10

def reportCommands (message source : String) (fontSize : Binary32) : List Command :=
  [.addPage, .setFont .courier fontSize, .setColor .alarm,
    restOfLine fontSize (latin1Lossy ("ERROR: ".toList ++ message.toList)),
    .newLine (some reportGap), .setColor .ink] ++
  if source.isEmpty then [] else [restOfLine fontSize (latin1Lossy source.toList)]

/-- The error report. What cannot be drawn is left out. -/
def Diagnosis.report (d : Diagnosis) (patches : PatchSet) (source : String)
    (fontSize : Option UInt32) : Document :=
  (patches.apply Document.backend).drawEach
    (reportCommands d.message source (documentFontSize fontSize)) .empty

/-! ## Printed text -/

def printout (patches : PatchSet) (text : String) (fontSize : Option UInt32) :
    Except DrawError Document :=
  let size := documentFontSize fontSize
  match (patches.apply Document.backend).draw
    [.addPage, .setFont .courier size, restOfLine size text.toList] .empty with
  | (.ok (), d) => .ok d
  | (.error e, _) => .error e

/-! ## In the store -/

namespace Conversion

variable {σ : Type}

def writeDocument (name : String) (d : Document) : Conversion σ (Except DrawError String) := do
  match ← write name d.bytes with
  | .ok () => return .ok name
  | .error e => return .error (.storage name e.message)

/-- Keeps the error report, and says under which name. -/
def writeReport (d : Diagnosis) (source : String) (fontSize : Option UInt32) :
    Conversion σ (Except ConversionError String) := do
  let patches := (← get).sandbox.patches
  match ← writeDocument reportName (d.report patches source fontSize) with
  | .ok name => return .ok name
  | .error e => return .error (.outputWrite reportName e.message)

/-- Keeps printed text as a document, and says under which name. -/
def writePrintout (text : String) (fontSize : Option UInt32) :
    Conversion σ (Except DrawError String) := do
  match printout (← get).sandbox.patches text fontSize with
  | .ok d => writeDocument printoutName d
  | .error e => return .error e

end Conversion

end ScriptPress
