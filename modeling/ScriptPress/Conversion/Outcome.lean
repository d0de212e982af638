import ScriptPress.Conversion.Error
import ScriptPress.Diagnosis.Basic
import ScriptPress.Text.Blank

/-!
# Outcomes

What a request delivers: the document, how it came to be, and what was learned on the way.

## Main definitions

* `Outcome` — how the document came to be.
* `Stats` — times and counts.
* `Output` — the delivered document with everything about it.
* `downloadName` — a name with the extension of a document.
-/

namespace ScriptPress

open Text

inductive Outcome where
  /-- The script saved it. -/
  | saved
  /-- It shows what the script printed. -/
  | fromStdout
  /-- A function of the script left it behind when it was called. -/
  | autoInvoked (function : String)
  /-- It is the error report. -/
  | fallback
  deriving DecidableEq, Repr

def Outcome.isFallback : Outcome → Bool
  | fallback => true
  | _ => false

structure Stats where
  normalizeMs : UInt64
  diagnoseMs : UInt64
  executeMs : UInt64
  resolveMs : UInt64
  fallbackMs : UInt64
  totalMs : UInt64
  /-- Whether a repaired script ran in place of the given one. -/
  autoFixed : Bool
  /-- The number of documents that were found; the first is delivered. -/
  artifactsFound : Nat
  deriving DecidableEq, Repr

def Stats.zero : Stats where
  normalizeMs := 0
  diagnoseMs := 0
  executeMs := 0
  resolveMs := 0
  fallbackMs := 0
  totalMs := 0
  autoFixed := false
  artifactsFound := 0

/-- The delivered document and everything that was learned while making it. -/
structure Output where
  /-- The name for the one who receives it. -/
  filename : String
  /-- The name in the store. -/
  artifact : String
  bytes : Bytes
  outcome : Outcome
  /-- Why the request failed; or, where a repaired script ran, what was repaired. -/
  diagnosis : Option Diagnosis
  /-- The repaired script. -/
  proposedFix : Option String
  /-- What the script printed. -/
  stdout : String
  stats : Stats
  deriving DecidableEq, Repr

/-- The output, unless it is a report: then the failure that it reports. -/
def Output.result (o : Output) : Except ConversionError Output :=
  match o.outcome, o.diagnosis with
  | .fallback, some d => .error (.diagnosed d.typeName d.message)
  | .fallback, none => .error (.internal "fallback report without a diagnosis")
  | _, _ => .ok o

/-! ## Names -/

/-- Whether a name ends in the extension of a document, in capital or small letters. -/
def hasPdfExtension (name : List Char) : Bool :=
  Store.pdfExtension.toList.isSuffixOf (name.map Char.toLower)

/-- A name without white space around it and with the extension of a document. -/
def downloadName (name : String) : String :=
  let trimmed := trim name.toList
  String.ofList (if hasPdfExtension trimmed then trimmed else trimmed ++ Store.pdfExtension.toList)

/-- A name for the one who receives the document always has its extension. -/
theorem hasPdfExtension_downloadName (name : String) :
    hasPdfExtension (downloadName name).toList = true := by
  unfold downloadName
  dsimp only
  split
  · simpa
  · simp only [String.toList_ofList, hasPdfExtension, List.map_append]
    have : Store.pdfExtension.toList.map Char.toLower = Store.pdfExtension.toList := by
      decide +kernel
    rw [this, List.isSuffixOf_iff_suffix]
    exact List.suffix_append _ _

end ScriptPress
