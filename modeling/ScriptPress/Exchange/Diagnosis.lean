import ScriptPress.Diagnosis.Basic
import ScriptPress.Json.Basic

/-!
# Diagnoses as JSON

The records of compile failures, exceptions and diagnoses, as they are written and as they are read.

## Main definitions

* `CompileFailure.toJson`, `CompileFailure.ofJson?` — and the same for `RuntimeException` and
  `Diagnosis`.
-/

namespace ScriptPress

open Json

def Json.ofWord (n : UInt64) : Json := .ofNat n.toNat

/-! ## Compile failures -/

namespace CompileFailure

def errorKind : CompileFailureKind → ErrorKind
  | .syntaxError => .syntaxError
  | .indentation => .indentation

def kindOfLabel? (s : String) : Option CompileFailureKind :=
  [CompileFailureKind.syntaxError, .indentation].find? fun k => (errorKind k).label == s

def toJson (f : CompileFailure) : Json :=
  .object
    [("kind", .string (errorKind f.kind).label), ("message", .string f.message),
      ("line", .ofOption .ofWord f.line)]

def fieldNames : List String := ["kind", "message", "line"]

def ofJson? (j : Json) : Option CompileFailure := do
  let field ← j.record? fieldNames 0
  return {
    kind := ← (← required variant? (field "kind")) |> kindOfLabel?
    message := ← required text? (field "message")
    line := ← optional word? (field "line") }

end CompileFailure

/-! ## Exceptions -/

namespace Frame

def toJson (f : Frame) : Json :=
  .object [("filename", .string f.filename), ("line", .ofOption .ofWord f.line)]

def fieldNames : List String := ["filename", "line"]

def ofJson? (j : Json) : Option Frame := do
  let field ← j.record? fieldNames 0
  return {
    filename := ← required text? (field "filename")
    line := ← optional word? (field "line") }

end Frame

namespace RuntimeException

def toJson (e : RuntimeException) : Json :=
  .object
    [("type_name", .string e.typeName), ("message", .string e.message),
      ("frames", .array (e.frames.map Frame.toJson))]

def fieldNames : List String := ["type_name", "message", "frames"]

def ofJson? (j : Json) : Option RuntimeException := do
  let field ← j.record? fieldNames 0
  return {
    typeName := ← required text? (field "type_name")
    message := ← required text? (field "message")
    frames := ← required (list? Frame.ofJson?) (field "frames") }

end RuntimeException

/-! ## Diagnoses -/

namespace Diagnosis

def toJson (d : Diagnosis) : Json :=
  .object
    [("type", .string d.typeName), ("kind", .string d.kind.label),
      ("line", .ofOption .ofWord d.line), ("message", .string d.message),
      ("explanation", .string d.explanation), ("suggestion", .string d.suggestion),
      ("proposedFix", .ofOption .string d.proposedFix)]

def fieldNames : List String :=
  ["type", "kind", "line", "message", "explanation", "suggestion", "proposedFix"]

def ofJson? (j : Json) : Option Diagnosis := do
  let field ← j.record? fieldNames 0
  return {
    typeName := ← required text? (field "type")
    kind := ← (← required variant? (field "kind")) |> ErrorKind.ofLabel?
    line := ← optional word? (field "line")
    message := ← required text? (field "message")
    explanation := ← required text? (field "explanation")
    suggestion := ← required text? (field "suggestion")
    proposedFix := ← optional text? (field "proposedFix") }

end Diagnosis

end ScriptPress
