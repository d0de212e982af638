import ScriptPress.Store.Basic

/-!
# Fatal errors

What keeps a request from delivering any document. A failure of the script is not among them: it is
delivered as a report.

## Main definitions

* `ConversionError`, `ConversionError.message` — the errors and their texts.
* `ConversionError.ofStore` — a failed call of the store as a fatal error.
-/

namespace ScriptPress

/-- What keeps a request from delivering any document. -/
inductive ConversionError where
  /-- Nothing is left to run. -/
  | emptySource
  | noInterpreter (hint : String)
  | sandbox (detail : String)
  | sandboxIo (path cause : String)
  | outputWrite (path cause : String)
  | invalidConfig (detail : String)
  /-- The document is a report, and the caller did not want one. -/
  | diagnosed (typeName message : String)
  | internal (detail : String)
  /-- The time limit ends later than the clock can tell. -/
  | beyondClock
  deriving DecidableEq, Repr

namespace ConversionError

def message : ConversionError → String
  | emptySource => "No code provided\nPaste some Python code that builds a PDF."
  | noInterpreter hint => s!"No code runtime is configured.\n{hint}"
  | sandbox detail => s!"Sandbox failure: {detail}"
  | sandboxIo path cause => s!"Sandbox I/O failed on '{path}': {cause}"
  | outputWrite path cause => s!"Failed to write output file '{path}': {cause}"
  | invalidConfig detail => s!"Invalid configuration: {detail}"
  | diagnosed typeName message => s!"{typeName}: {message}"
  | internal detail => s!"Internal error: {detail}"
  | beyondClock => "overflow when adding duration to instant"

def cause? : ConversionError → Option String
  | sandboxIo _ cause | outputWrite _ cause => some cause
  | _ => none

def ofStore : StoreError → ConversionError
  | .notPlainName name => sandbox s!"'{name}' is not a plain file name"
  | .refused call => sandbox s!"{call.name} failed"
  | .io path cause => sandboxIo path cause.message

end ConversionError

end ScriptPress
