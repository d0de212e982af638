import ScriptPress.Repair.Line
import ScriptPress.Text.Line

/-!
# Proposed fixes

A fix repairs one line of a script and carries every other one over as it is, endings included.

## Main definitions

* `repairRawLine?` — a raw line with its content repaired and its ending kept.
* `proposal?` — the script with one line repaired, if that changes more than trailing white space.
-/

namespace ScriptPress.Repair

open Text

/-- Whether a character belongs to a run of line endings. -/
def isEnding (c : Char) : Bool := c == '\n' || c == '\r'

/-- The repaired content of a raw line, if the repair changes more than trailing white space. -/
def repairRawLine? (raw : List Char) : Option (List Char) :=
  let content := dropEndWhile isEnding raw
  let repaired := repairLine content
  if trimEnd repaired == trimEnd content then none
  else some (repaired ++ takeEndWhile isEnding raw)

/-- The script with line `n`, counted from 1, repaired. -/
def proposal? (code : List Char) (n : Nat) : Option (List Char) := do
  let raw ← numbered? (rawLines code) n
  let repaired ← repairRawLine? raw
  return ((rawLines code).set (n - 1) repaired).flatten

def propose? (code : String) (n : Nat) : Option String :=
  (proposal? code.toList n).map String.ofList

end ScriptPress.Repair
