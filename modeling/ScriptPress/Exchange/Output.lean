import ScriptPress.Conversion.Run
import ScriptPress.Exchange.Diagnosis
import ScriptPress.Exchange.Loadable
import ScriptPress.Json.Printer
import ScriptPress.Source.Buffer

/-!
# Results as JSON

The records of outcomes, counts, outputs, runs, patches, buffers and scripts, as they are written
and as they are read. The bytes of a document are not part of a record.

## Main definitions

* `Output.toJson`, `Output.ofJson?` — and the same for `Outcome`, `Stats`, `RunResult`,
  `Page.PatchSet`, `SourceBuffer` and `Script`.
-/

namespace ScriptPress

open Json

/-! ## Patches, buffers and scripts -/

namespace Page.PatchSet

def toJson (p : PatchSet) : Json :=
  .object
    [("zero_width_cell", .bool p.zeroWidthCell), ("encoding_fallback", .bool p.encodingFallback)]

def fieldNames : List String := ["zero_width_cell", "encoding_fallback"]

def ofJson? (j : Json) : Option PatchSet := do
  let field ← j.record? fieldNames 0
  return {
    zeroWidthCell := ← required flag? (field "zero_width_cell")
    encodingFallback := ← required flag? (field "encoding_fallback") }

end Page.PatchSet

namespace SourceBuffer

def toJson (b : SourceBuffer) : Json :=
  .object
    [("text", .string b.text), ("font_size", .ofOption (fun n => .ofNat n.toNat) b.fontSize)]

def fieldNames : List String := ["text", "font_size"]

def ofJson? (j : Json) : Option SourceBuffer := do
  let field ← j.record? fieldNames 0
  return {
    text := ← required text? (field "text")
    fontSize := ← optional word32? (field "font_size") }

end SourceBuffer

namespace Script

/-- A script is written as its text, without a record around it. -/
def toJson (script : String) : Json := .string script

def ofJson? (j : Json) : Option String := j.text?

end Script

/-! ## Outcomes -/

namespace Outcome

def label : Outcome → String
  | saved => "saved"
  | fromStdout => "from_stdout"
  | autoInvoked _ => "auto_invoked"
  | fallback => "fallback"

def toJson (o : Outcome) : Json :=
  match o with
  | autoInvoked function => .object [("kind", .string o.label), ("function", .string function)]
  | _ => .object [("kind", .string o.label)]

/-- The outcome of a name, where its function is read by `function`. -/
def ofLabel? (function : Option String) (label : String) : Option Outcome :=
  if label = saved.label then some saved
  else if label = fromStdout.label then some fromStdout
  else if label = fallback.label then some fallback
  else if label = (autoInvoked "").label then function.map autoInvoked
  else none

/-- Reads the record of an outcome that stands at a level of a text. The name decides what else is
read, so the fields must be loadable before it is known. They may also be written as an array. -/
def ofJson? (level : Nat) (j : Json) : Option Outcome :=
  match j with
  | .object fields =>
    if !isLoadable level j then none
    else
      match valuesOf "kind" fields, valuesOf "function" fields with
      | [.string label], functions =>
        if label = (autoInvoked "").label then
          match functions with
          | [.string function] => some (autoInvoked function)
          | _ => none
        else ofLabel? none label
      | _, _ => none
  | .array [.string label] => if isLoadable level j then ofLabel? none label else none
  | .array [.string label, .string function] =>
    if isLoadable level j && label == (autoInvoked "").label then some (autoInvoked function)
    else none
  | _ => none

def text (o : Outcome) : String := o.toJson.text

end Outcome

/-! ## Counts -/

namespace Stats

def toJson (s : Stats) : Json :=
  .object
    [("normalize_ms", .ofWord s.normalizeMs), ("diagnose_ms", .ofWord s.diagnoseMs),
      ("execute_ms", .ofWord s.executeMs), ("resolve_ms", .ofWord s.resolveMs),
      ("fallback_ms", .ofWord s.fallbackMs), ("total_ms", .ofWord s.totalMs),
      ("auto_fixed", .bool s.autoFixed), ("artifacts_found", .ofNat s.artifactsFound)]

def fieldNames : List String :=
  ["normalize_ms", "diagnose_ms", "execute_ms", "resolve_ms", "fallback_ms", "total_ms",
    "auto_fixed", "artifacts_found"]

def ofJson? (j : Json) : Option Stats := do
  let field ← j.record? fieldNames 0
  return {
    normalizeMs := ← required word? (field "normalize_ms")
    diagnoseMs := ← required word? (field "diagnose_ms")
    executeMs := ← required word? (field "execute_ms")
    resolveMs := ← required word? (field "resolve_ms")
    fallbackMs := ← required word? (field "fallback_ms")
    totalMs := ← required word? (field "total_ms")
    autoFixed := ← required flag? (field "auto_fixed")
    artifactsFound := (← required word? (field "artifacts_found")).toNat }

end Stats

/-! ## Outputs and runs -/

namespace Output

def toJson (o : Output) : Json :=
  .object
    [("filename", .string o.filename), ("artifact", .string o.artifact),
      ("outcome", o.outcome.toJson), ("diagnosis", .ofOption Diagnosis.toJson o.diagnosis),
      ("proposed_fix", .ofOption .string o.proposedFix), ("stdout", .string o.stdout),
      ("stats", o.stats.toJson)]

def fieldNames : List String :=
  ["filename", "artifact", "outcome", "diagnosis", "proposed_fix", "stdout", "stats"]

/-- Reads the record of an output, without the bytes. -/
def ofJson? (j : Json) : Option Output := do
  let field ← j.record? fieldNames 0
  return {
    filename := ← required text? (field "filename")
    artifact := ← required text? (field "artifact")
    bytes := []
    outcome := ← required (Outcome.ofJson? 1) (field "outcome")
    diagnosis := ← optional Diagnosis.ofJson? (field "diagnosis")
    proposedFix := ← optional text? (field "proposed_fix")
    stdout := ← required text? (field "stdout")
    stats := ← required Stats.ofJson? (field "stats") }

end Output

namespace RunResult

def toJson : RunResult → Json
  | success pdfs => .object [("Success", .array (pdfs.map .string))]
  | failure d => .object [("Failure", d.toJson)]

def ofJson? : Json → Option RunResult
  | .object [(name, j)] =>
    if name = "Success" then (list? text? j).map success
    else if name = "Failure" then (Diagnosis.ofJson? j).map failure
    else none
  | _ => none

end RunResult

end ScriptPress
