import ScriptPress.Conversion.Session

/-!
# Runs

A script runs once, under a time limit and with its output captured. What it printed is kept however
it ended.

## Main definitions

* `RunResult` — the documents that a run left, or why it failed.
* `Conversion.runScript` — a run.
-/

namespace ScriptPress

inductive RunResult where
  /-- The documents in the sandbox after the run. -/
  | success (pdfs : List String)
  | failure (diagnosis : Diagnosis)
  deriving DecidableEq, Repr

def RunResult.isSuccess : RunResult → Bool
  | success _ => true
  | failure _ => false

/-! ## Deadlines -/

/-- The first moment, in milliseconds, that the clock cannot tell. -/
def clockEnd : Nat := Nat.pow 2 63 * 1000

def thirtyYears : Nat := 86400 * 365 * 30 * 1000

/-- When a time limit ends, if the clock can tell. -/
def deadline? (clock limit : Nat) : Option Nat :=
  if clock + limit < clockEnd then some (clock + limit) else none

/-- When a run must end: at its limit, or in thirty years if the clock cannot tell that. -/
def runDeadline (clock limit : Nat) : Nat := (deadline? clock limit).getD (clock + thirtyYears)

namespace Conversion

variable {σ : Type}

/-- Runs a script for at most `limit` milliseconds. What it printed comes with the result. -/
def runScript (interpreter : Interpreter σ) (script : String) (c : Context) (limit : Nat) :
    Conversion σ (RunResult × String × Context) := do
  let (ending, printed, c) ←
    execute interpreter (runDeadline (← now) limit) script c
  match ending with
  | none => return (.failure (.timeout (max 1 (limit / 1000))), printed, c)
  | some (.error e) => return (.failure (.ofException script e), printed, c)
  | some (.ok ()) =>
    match ← listPdfs with
    | .ok pdfs => return (.success pdfs, printed, c)
    | .error e => return (.failure (.system e.message), printed, c)

end Conversion

end ScriptPress
