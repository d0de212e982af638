import ScriptPress.Diagnosis.Exception
import ScriptPress.Diagnosis.Compile
import ScriptPress.Json.Parser
import ScriptPress.Text.Line
import ScriptPress.Text.Utf8

/-!
# Reports of an interpreter process

A process that runs a script reports in JSON on the last line of its output that is not blank.
Whatever the script writes there by itself stands in front of it and does not matter.

## Main definitions

* `Report` — what the process says.
* `lastLine?` — the line that a report stands on.
* `Report.ofLine?` — the report that a line holds.
-/

namespace ScriptPress

open Json Text

structure ReportedError where
  typeName : String
  message : String
  /-- The line of the script, where the error knows it. -/
  line : Option UInt64
  frames : List Frame
  deriving DecidableEq, Repr

structure Report where
  ok : Bool
  stdout : String
  error : Option ReportedError
  callables : List String
  autoInvoked : Bool
  /-- The function that left a document. -/
  invoked : Option String
  deriving DecidableEq, Repr

/-! ## Framing -/

def lastLine? (output : Bytes) : Option (List Char) :=
  (lines (decodeUtf8Lossy output)).reverse.find? (!isBlankText ·)

/-! ## Fields -/

def Frame.ofReport? (j : Json) : Option Frame := do
  let field ← j.record? ["filename", "lineno"] 0
  return {
    filename := ← required text? (field "filename")
    line := ← optional word? (field "lineno") }

def ReportedError.ofJson? (j : Json) : Option ReportedError := do
  let field ← j.record? ["type", "message", "lineno", "frames"] 1
  return {
    typeName := ← required text? (field "type")
    message := ← required text? (field "message")
    line := ← optional word? (field "lineno")
    frames := ← withDefault [] (list? Frame.ofReport?) (field "frames") }

def Report.ofJson? (j : Json) : Option Report := do
  let field ← j.record? ["ok", "stdout", "error", "callables", "auto_invoked", "invoked"] 0
  return {
    ok := ← required flag? (field "ok")
    stdout := ← withDefault "" text? (field "stdout")
    error := ← optional ReportedError.ofJson? (field "error")
    callables := ← withDefault [] (list? text?) (field "callables")
    autoInvoked := ← withDefault false flag? (field "auto_invoked")
    invoked := ← optional text? (field "invoked") }

def Report.ofLine? (line : List Char) : Option Report := (Json.parse? line).bind ofJson?

/-! ## Meaning -/

def ReportedError.compileFailure (e : ReportedError) : CompileFailure where
  kind :=
    if e.typeName = "IndentationError" ∨ e.typeName = "TabError" then .indentation
    else .syntaxError
  message := e.message
  line := e.line

/-- The exception that an error stands for. A line of its own is its innermost frame. -/
def ReportedError.exception (e : ReportedError) : RuntimeException where
  typeName := e.typeName
  message := e.message
  frames := e.frames ++ (e.line.map fun n => ⟨scriptUnit, some n⟩).toList

end ScriptPress
