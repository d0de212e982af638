import ScriptPress.Conversion.Delivery
import ScriptPress.Repair.Proposal
import ScriptPress.Source.Buffer

/-!
# Conversion

A request turns a pasted script into one document: the script's own, one of what it printed, one
that a function of it left behind, or the error report. A script that does not compile is repaired
once.

## Main definitions

* `Conversion.repairScript` — the repair that compiles.
* `Conversion.deliverReport`, `Conversion.deliver` — the two ends of a request.
* `Conversion.convert` — a whole request.
* `Conversion.check` — only whether the script compiles, and the repair if it does not.
-/

namespace ScriptPress

namespace Conversion

variable {σ : Type}

/-! ## Compiling and repairing -/

def diagnose (interpreter : Interpreter σ) (script : String) :
    Conversion σ (Option Diagnosis) := do
  return (← compile interpreter script).map (.ofCompileFailure script)

/-- The script with the line of a diagnosis repaired, if that compiles. -/
def repairScript (interpreter : Interpreter σ) (script : String) (d : Diagnosis) :
    Conversion σ (Option String) := do
  match if d.kind.isCompile then d.line.bind (Repair.propose? script ·.toNat) else none with
  | none => return none
  | some candidate =>
    match ← compile interpreter candidate with
    | none => return some candidate
    | some _ => return none

/-! ## Delivering -/

/-- What is known of a request before it delivers. -/
structure Progress where
  /-- The buffer as it was given. -/
  buffer : SourceBuffer
  /-- When the request began. -/
  start : Nat
  /-- The repaired script and what was repaired. -/
  repaired : Option (String × Diagnosis)
  stdout : String
  stats : Stats

def filenameFor (config : Config) (artifact : String) : String :=
  (config.outputName.map downloadName).getD artifact

def elapsed (start : Nat) : Conversion σ UInt64 := return .ofNat ((← now) - start)

def deliverReport (config : Config) (p : Progress) (d : Diagnosis) :
    Conversion σ (Except ConversionError Output) := do
  let started ← now
  tell (.started .fallback)
  match ← writeReport d p.buffer.text p.buffer.fontSize with
  | .error e => return .error e
  | .ok artifact =>
    match ← read artifact with
    | .error e => return .error (.ofStore e)
    | .ok bytes =>
      tell (.completed .fallback)
      let fallbackMs ← elapsed started
      let totalMs ← elapsed p.start
      tell (.fellBack d)
      let filename := filenameFor config artifact
      tell (.finished .fallback filename)
      return .ok {
        filename := filename
        artifact := artifact
        bytes := bytes
        outcome := .fallback
        diagnosis := some d
        proposedFix := p.repaired.map (·.1)
        stdout := p.stdout
        stats := { p.stats with fallbackMs := fallbackMs, totalMs := totalMs } }

def deliver (config : Config) (p : Progress) (delivery : Delivery) :
    Conversion σ (Except ConversionError Output) := do
  let p := { p with stats := { p.stats with artifactsFound := delivery.artifacts.length } }
  match delivery.artifacts with
  | [] => return .error (.internal "resolution returned no artifact")
  | artifact :: _ =>
    match ← read artifact with
    | .error e => deliverReport config p (.system e.message)
    | .ok bytes =>
      let filename := filenameFor config artifact
      let totalMs ← elapsed p.start
      tell (.finished delivery.outcome filename)
      return .ok {
        filename := filename
        artifact := artifact
        bytes := bytes
        outcome := delivery.outcome
        diagnosis := p.repaired.map (·.2)
        proposedFix := p.repaired.map (·.1)
        stdout := p.stdout
        stats := { p.stats with totalMs := totalMs } }

/-! ## The request -/

def requestContext (config : Config) (script : String) : Conversion σ Context := do
  let sandbox := (← get).sandbox
  let c := Context.new script sandbox.patches sandbox.store.isRooted
  return if config.autoInvoke then c.allowAutoInvoke printoutName else c

def runAndDeliver (interpreter : Interpreter σ) (config : Config) (p : Progress)
    (script : String) : Conversion σ (Except ConversionError Output) := do
  let ((result, printed, c), executeMs) ← stage .execute do
    runScript interpreter script (← requestContext config script) config.timeoutMs
  let p := { p with stdout := printed, stats := { p.stats with executeMs := executeMs } }
  match result with
  | .failure d => deliverReport config p d
  | .success pdfs =>
    let options : ResolveOptions :=
      ⟨config.effectiveFontSize, config.autoInvoke, config.timeoutMs⟩
    let ((resolution, _), resolveMs) ←
      stage .resolve (resolve interpreter c pdfs printed options)
    let p := { p with stats := { p.stats with resolveMs := resolveMs } }
    match resolution with
    | .delivered delivery => deliver config p delivery
    | .failed d => deliverReport config p d
    | .beyondClock => return .error .beyondClock

def mend (interpreter : Interpreter σ) (config : Config) (script : String) (d : Diagnosis) :
    Conversion σ (Option String) :=
  if config.autoFix then return (← stage .autoFix (repairScript interpreter script d)).1
  else return none

def checkAndRun (interpreter : Interpreter σ) (config : Config) (p : Progress) (script : String) :
    Conversion σ (Except ConversionError Output) := do
  let (failure, diagnoseMs) ← stage .diagnose (diagnose interpreter script)
  let p := { p with stats := { p.stats with diagnoseMs := diagnoseMs } }
  match failure with
  | none => runAndDeliver interpreter config p script
  | some d =>
    match ← mend interpreter config script d with
    | none => deliverReport config p d
    | some fixed =>
      tell (.fixProposed d fixed)
      let p :=
        { p with
          repaired := some (fixed, d.withFix fixed)
          stats := { p.stats with autoFixed := true } }
      runAndDeliver interpreter config p fixed

def prepare (config : Config) (source : String) : Conversion σ (String × Progress) := do
  let start ← now
  let buffer := SourceBuffer.new source config.effectiveFontSize
  let (script, normalizeMs) ← stage .normalize (pure buffer.script)
  return (script, ⟨buffer, start, none, "", { Stats.zero with normalizeMs := normalizeMs }⟩)

/-- A whole request: a script in, one document out. -/
def convert (interpreter : Interpreter σ) (config : Config) (source : String) :
    Conversion σ (Except ConversionError Output) := do
  let (script, p) ← prepare config source
  if script.isEmpty then return .error .emptySource
  else
    match ← removePdfs with
    | .error e => return .error (.ofStore e)
    | .ok _ => checkAndRun interpreter config p script

/-- Only checks a script. The diagnosis of one that does not compile has the repair with it. -/
def check (interpreter : Interpreter σ) (config : Config) (source : String) :
    Conversion σ (Except ConversionError (Option Diagnosis)) := do
  let script := (SourceBuffer.new source config.effectiveFontSize).script
  if script.isEmpty then return .error .emptySource
  else
    match ← diagnose interpreter script with
    | none => return .ok none
    | some d =>
      if config.autoFix then
        match ← repairScript interpreter script d with
        | some fixed => return .ok (some (d.withFix fixed))
        | none => return .ok (some d)
      else return .ok (some d)

end Conversion

end ScriptPress
