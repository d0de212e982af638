import ScriptPress.CommandLine.Message
import ScriptPress.Conversion.Basic
import ScriptPress.Conversion.Saving
import ScriptPress.Interpreter.Process

/-!
# Runs of the command

From the choices to the file that is written, the text that is printed, and the exit status: 0 if
the document came from the script, 1 if there is none, 2 if it is a report or if a check found
something.

## Main definitions

* `Options.config`, `Options.path`, `Options.command` — what the choices come to.
* `checkResponse`, `deliveryResponse` — what the command says.
* `Surroundings`, `perform` — a run among files, variables and processes.
-/

namespace ScriptPress.CommandLine

open Disk Text

/-! ## Choices -/

namespace Options

/-- The configuration of the request. A listener shows the progress to readers. -/
def config (o : Options) : Except ConversionError Config :=
  Config.build <|
    [.timeoutSecs o.timeout, .autoFix !o.noAutoFix, .autoInvoke !o.noAutoInvoke] ++
      (o.fontSize.map .fontSize).toList ++ (o.name.map .outputName).toList ++
      (o.python.map .python).toList ++
      if o.quiet || o.json || o.check || o.verbose then [] else [.listener ⟨0⟩]

/-- The name of the document where none is given: that of the input without its extension. -/
def inputStem (input : String) : String :=
  match (fileName? input.toList).map fileStem with
  | some stem => if stem = ['-'] then "output" else String.ofList stem
  | none => "output"

def path (o : Options) : String :=
  o.output.getD (downloadName (o.name.getD (inputStem o.input)))

def command (o : Options) (env : Environment) : String :=
  o.python.getD (interpreterCommand (env.lookup Parameter.python.variable))

end Options

/-! ## What the command says -/

structure Response where
  exit : Nat
  stdout : String
  stderr : String
  deriving DecidableEq, Repr

namespace Response

def failed (context : String) (causes : List String) : Response :=
  ⟨1, "", errorText context causes⟩

def unreadable (input cause : String) : Response :=
  if input = "-" then failed "Failed to read source from stdin" [cause]
  else failed s!"Failed to read source from {quoted input}" [cause]

end Response

def checkResponse (o : Options) (result : Except ConversionError (Option Diagnosis)) : Response :=
  match result with
  | .error e => .failed "Check failed" (causesOf e)
  | .ok diagnosis =>
    let exit := if diagnosis.isSome then 2 else 0
    if o.json then ⟨exit, jsonText (.ofOption Diagnosis.toJson diagnosis), ""⟩
    else
      match diagnosis with
      | none => ⟨exit, compilesText, ""⟩
      | some d => ⟨exit, "", diagnosisText d⟩

def deliveryResponse (o : Options) (result : Except ConversionError Output) : Response :=
  match result with
  | .error e => .failed "Conversion failed" (causesOf e)
  | .ok output =>
    let exit := if output.outcome.isFallback then 2 else 0
    if o.json then ⟨exit, jsonText output.toJson, ""⟩
    else if o.quiet then ⟨exit, "", ""⟩
    else ⟨exit, "", summaryText output o.path⟩

/-! ## Requests -/

def newSandbox : Sandbox := ⟨.inFolder "<root>", .all⟩

def onHost {α : Type} (host : Host) (work : Conversion Host α) : α × Host :=
  let (a, session) := work (.new newSandbox host)
  (a, session.state)

def check (o : Options) (env : Environment) (complaint : Complaint) (source : String)
    (host : Host) : Except ConversionError (Option Diagnosis) × Host :=
  match o.config with
  | .error e => (.error e, host)
  | .ok config =>
    onHost host (Conversion.check (processInterpreter (o.command env) complaint) config source)

def convert (o : Options) (env : Environment) (complaint : Complaint) (source : String)
    (host : Host) : Except ConversionError Output × Host :=
  match o.config with
  | .error e => (.error e, host)
  | .ok config =>
    onHost host (Conversion.convert (processInterpreter (o.command env) complaint) config source)

/-! ## Runs -/

structure Surroundings where
  environment : Environment
  stdin : Bytes
  root : Folder
  /-- The working folder. -/
  work : List Char
  host : Host
  complaint : Complaint

structure Aftermath where
  response : Response
  root : Folder
  host : Host

def Surroundings.source (s : Surroundings) (input : String) : Except OsError Bytes :=
  if input = "-" then .ok s.stdin else s.root.readFile (Disk.from s.work input.toList)

def notText : String := "stream did not contain valid UTF-8"

def Surroundings.sourceText (s : Surroundings) (input : String) : Except String String :=
  match s.source input with
  | .error e => .error e.message
  | .ok bytes =>
    match decodeUtf8? bytes with
    | some text => .ok (String.ofList text)
    | none => .error notText

/-- The files after processes have left theirs in the working folder. -/
def withLeftovers (s : Surroundings) (host : Host) : Folder :=
  host.leftOutside.foldl
    (fun root (name, bytes) => root.changed (·.put name (.file bytes)) [utf8 s.work]) s.root

def perform (o : Options) (s : Surroundings) : Aftermath :=
  match s.sourceText o.input with
  | .error cause => ⟨.unreadable o.input cause, s.root, s.host⟩
  | .ok source =>
    if o.check then
      let (result, host) := check o s.environment s.complaint source s.host
      ⟨checkResponse o result, withLeftovers s host, host⟩
    else
      let (result, host) := convert o s.environment s.complaint source s.host
      let (result, root) := saveOutput (withLeftovers s host) s.work o.path result
      ⟨deliveryResponse o result, root, host⟩

end ScriptPress.CommandLine
