import ScriptPress.Conversion.Outcome

/-!
# Progress

The stages of a request, and the events that tell a listener about them.

## Main definitions

* `Stage` — the stages, in their order.
* `Event` — what a listener hears.
-/

namespace ScriptPress

inductive Stage where
  | normalize
  | diagnose
  | autoFix
  | execute
  | resolve
  | fallback
  deriving DecidableEq, Repr

namespace Stage

def all : List Stage := [normalize, diagnose, autoFix, execute, resolve, fallback]

def label : Stage → String
  | normalize => "Normalize"
  | diagnose => "Diagnose"
  | autoFix => "AutoFix"
  | execute => "Execute"
  | resolve => "Resolve"
  | fallback => "Fallback"

def activity : Stage → String
  | normalize => "Normalizing"
  | diagnose => "Checking syntax"
  | autoFix => "Attempting auto-fix"
  | execute => "Running code"
  | resolve => "Collecting output"
  | fallback => "Rendering error report"

end Stage

inductive Event where
  | started (stage : Stage)
  | completed (stage : Stage)
  | fixProposed (diagnosis : Diagnosis) (script : String)
  | fellBack (diagnosis : Diagnosis)
  | finished (outcome : Outcome) (filename : String)
  deriving DecidableEq, Repr

end ScriptPress
