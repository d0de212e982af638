import ScriptPress.Diagnosis.Compile
import ScriptPress.Diagnosis.Exception
import ScriptPress.Text.Line

/-!
# Diagnoses

A structured account of a failure: what the runtime said, where, why it is an error and what to do
about it, and the corrected script where there is one. Making one never fails.

## Main definitions

* `Diagnosis` — the account.
* `Diagnosis.ofCompileFailure`, `Diagnosis.ofException` — from what a runtime reports.
* `Diagnosis.timeout`, `Diagnosis.noOutput`, `Diagnosis.system` — failures beside the script.
-/

namespace ScriptPress

open Text

structure Diagnosis where
  /-- The name of a class of exceptions. -/
  typeName : String
  kind : ErrorKind
  /-- The line of the script, counted from 1, when it is known. -/
  line : Option UInt64
  message : String
  explanation : String
  suggestion : String
  /-- The whole corrected script. -/
  proposedFix : Option String
  deriving DecidableEq, Repr

namespace Diagnosis

def ofFinding (kind : ErrorKind) (typeName message : String) (line : Option UInt64)
    (finding : Finding) : Diagnosis where
  typeName := typeName
  kind := kind
  line := line
  message := message
  explanation := finding.explanation
  suggestion := finding.suggestion
  proposedFix := none

def category (d : Diagnosis) : FailureCategory := d.kind.category

def withFix (d : Diagnosis) (fix : String) : Diagnosis := { d with proposedFix := some fix }

def display (d : Diagnosis) : String :=
  match d.line with
  | some line => s!"{d.typeName} (line {line.toNat}): {d.message}"
  | none => s!"{d.typeName}: {d.message}"

def timeout (secs : Nat) : Diagnosis :=
  ofFinding .timeout "TimeoutError" s!"Execution timed out after {secs}s" none .timeout

def noOutput : Diagnosis :=
  ofFinding .noOutput "NoOutputError" "No PDF generated; auto-fix attempts failed" none .noOutput

def system (message : String) : Diagnosis :=
  ofFinding .system "SystemError" message none .system

/-- The cause of a compile failure: what shows on the offending line, else what the message speaks
of. -/
def findCompileFailure (code : String) (failure : CompileFailure) : Finding :=
  ((failure.line.bind fun n => lineAt? code.toList n.toNat).bind findInLine?).getD
    (findInMessage failure.message.toList failure.kind)

def ofCompileFailure (code : String) (failure : CompileFailure) : Diagnosis :=
  let finding := findCompileFailure code failure
  match failure.kind with
  | .syntaxError => ofFinding .syntaxError "SyntaxError" failure.message failure.line finding
  | .indentation => ofFinding .indentation "IndentationError" failure.message failure.line finding

/-- The diagnosis of an exception that escaped a script. One that a compiler raises at run time is
looked at like a compile failure and keeps its own name. -/
def ofException (code : String) (e : RuntimeException) : Diagnosis :=
  match ErrorKind.ofTypeName e.typeName with
  | .syntaxError =>
    { ofCompileFailure code ⟨.syntaxError, e.message, e.userLine?⟩ with typeName := e.typeName }
  | .indentation =>
    { ofCompileFailure code ⟨.indentation, e.message, e.userLine?⟩ with typeName := e.typeName }
  | kind => ofFinding kind e.typeName e.message e.userLine? (findInException kind e.message)

end Diagnosis

end ScriptPress
