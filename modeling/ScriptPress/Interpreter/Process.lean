import ScriptPress.Exchange.Output
import ScriptPress.Interpreter.Basic
import ScriptPress.Interpreter.Report

/-!
# Interpreter processes

An interpreter that is a command: it is started for every call with a request on its input, works in
the folder of the sandbox, and answers with a report. The host says which commands can be started
and what they will answer, so a conversation with processes is a value. What the reader of JSON says
of a line that holds no report is left open.

## Main definitions

* `Request` — what a process is asked.
* `Reply`, `Host` — what the processes to come will do.
* `Complaint`, `Reply.report` — the report of a reply, and what is wrong with one that has none.
* `processInterpreter` — scripts run by a command.
* `interpreterCommand` — the command that is started where none is given.
-/

namespace ScriptPress

open Text

/-! ## Requests -/

inductive RequestMode where
  | compile
  | execute
  | invoke
  deriving DecidableEq, Repr

def RequestMode.name : RequestMode → String
  | compile => "compile"
  | execute => "exec"
  | invoke => "invoke"

structure Request where
  mode : RequestMode
  script : String
  function : Option String
  arg : Option String
  autoInvokeArg : Option String
  patches : Page.PatchSet
  /-- Whether the process works in the folder of the sandbox. -/
  inSandbox : Bool
  deriving DecidableEq, Repr

def Request.toJson (r : Request) : Json :=
  .object
    [("mode", .string r.mode.name), ("code", .string r.script),
      ("function", .ofOption .string r.function), ("arg", .ofOption .string r.arg),
      ("auto_invoke_arg", .ofOption .string r.autoInvokeArg), ("patches", r.patches.toJson)]

/-! ## Replies -/

/-- What a process does before it ends. -/
structure Reply where
  stdout : Bytes
  stderr : Bytes
  exit : Nat
  /-- The files that it leaves in its folder. -/
  files : List (Bytes × Bytes)

/-- The reply of a process that has nothing to say. -/
def Reply.bare : Reply := ⟨utf8 "\x7b\"ok\":true\x7d".toList, [], 0, []⟩

/-- The commands that can be started, and what they will answer. -/
structure Host where
  commands : List String
  /-- The replies to come; behind the last one they are bare. -/
  replies : List Reply
  /-- The requests so far. -/
  requests : List Request
  /-- The files that processes have left outside the sandbox. -/
  leftOutside : List (Bytes × Bytes)

namespace Host

def bare : Host := ⟨[], [], [], []⟩

def start (command : String) (request : Request) (h : Host) : Option Reply × Host :=
  if command ∈ h.commands then
    (some (h.replies.head?.getD .bare),
      { h with replies := h.replies.tail, requests := h.requests ++ [request] })
  else (none, h)

end Host

/-! ## Reports -/

def cannotStart (command : String) : String :=
  let cause := if command.contains '\x00' then "nul byte found in provided data"
    else Disk.OsError.message .notFound
  s!"cannot start '{command}': {cause}"

/-- What a reader of JSON says is wrong with a line that holds no report. -/
abbrev Complaint := List Char → String

def unreadableReport (command cause : String) : String :=
  s!"unreadable report from '{command}': {cause}"

/-- The report of a reply, or what is wrong with it. -/
def Reply.report (command : String) (complaint : Complaint) (r : Reply) : Except String Report :=
  match lastLine? r.stdout with
  | some line =>
    match Report.ofLine? line with
    | some report => .ok report
    | none => .error (unreadableReport command (complaint line))
  | none =>
    let said := String.ofList (trim (decodeUtf8Lossy r.stderr))
    .error s!"'{command}' exited with exit status: {r.exit} and no report: {said}"

/-! ## The interpreter -/

def RuntimeException.ofMachinery (message : String) : RuntimeException :=
  ⟨sandboxErrorType, message, []⟩

/-- What a report says was done, and how the script ended. -/
def Report.program (mode : RequestMode) (h : Host) (r : Report) : Program Host :=
  let ending : Ending :=
    match r.error with
    | some e => if r.ok then .ok () else .error e.exception
    | none => .ok ()
  let ended : Program Host := .finish ending h
  let recorded := if r.autoInvoked then .record r.invoked ended else ended
  let replaced := if mode = .execute then .replace r.callables recorded else recorded
  if r.stdout.isEmpty then replaced else .print r.stdout replaced

section

variable (command : String) (complaint : Complaint)

/-- Runs a request in the folder of the sandbox. -/
def runRequest (rooted : Bool) (request : Request) (h : Host) : Program Host :=
  if !rooted then
    .finish (.error (.ofMachinery "the python runtime needs a directory-backed sandbox")) h
  else
    match h.start command request with
    | (none, h) => .finish (.error (.ofMachinery (cannotStart command))) h
    | (some reply, h) =>
      let reported : Program Host :=
        match reply.report command complaint with
        | .ok report => report.program request.mode h
        | .error detail => .finish (.error (.ofMachinery detail)) h
      reply.files.foldr (fun (name, bytes) next => .place name bytes next) reported

/-- Whether a script compiles. A process that does not say so is passed over: running the script
will meet the same trouble and tell of it. -/
def compileRequest (script : String) (h : Host) : Option CompileFailure × Host :=
  match h.start command ⟨.compile, script, none, none, none, .none, false⟩ with
  | (none, h) => (none, h)
  | (some reply, h) =>
    let h := { h with leftOutside := h.leftOutside ++ reply.files }
    match reply.report command complaint with
    | .ok report => (if report.ok then none else report.error.map (·.compileFailure), h)
    | .error _ => (none, h)

def processInterpreter : Interpreter Host where
  name := "python"
  compile := compileRequest command complaint
  execute script c :=
    runRequest command complaint c.rooted
      ⟨.execute, script, none, none, c.autoInvokeArg, c.patches, true⟩
  invoke function arg c :=
    runRequest command complaint c.rooted
      ⟨.invoke, c.script, some function, arg, none, c.patches, true⟩

end

/-- The command that is started where none is given: that of the environment, unless blank. -/
def interpreterCommand (environment : Option String) : String :=
  match environment with
  | some command => if isBlankText command.toList then "python3" else command
  | none => "python3"

end ScriptPress
