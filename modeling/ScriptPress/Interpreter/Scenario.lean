import ScriptPress.Interpreter.Basic
import ScriptPress.Page.File

/-!
# Prepared scenarios

An interpreter that does not read the script but plays what was prepared for it. It serves to
rehearse a conversion.

## Main definitions

* `Action`, `Action.program` — something a script may do, and the tree of it.
* `Scenario` — the prepared answers and actions.
* `Scenario.interpreter` — the interpreter that plays them; its state is the compile answers to
  come.
-/

namespace ScriptPress

open Page

inductive DrawingStep where
  | draw (command : Command)
  | output (name : String)
  deriving Repr

inductive Action where
  | print (text : String)
  | define (name : String)
  | replace (names : List String)
  | record (producer : Option String)
  | sleep (ms : Nat)
  | raise (e : RuntimeException)
  | write (name : String) (bytes : Bytes)
  | remove (name : String)
  /-- Draws on a new document. -/
  | document (steps : List DrawingStep)

def RuntimeException.atFirstLine (typeName message : String) : RuntimeException :=
  ⟨typeName, message, [⟨scriptUnit, some 1⟩]⟩

namespace Action

variable {σ : Type}

/-- Goes on if a call of the store succeeded; its error is raised as one of the system. -/
def orRaise (state : σ) (next : Program σ) : Except StoreError Unit → Program σ
  | .ok () => next
  | .error e => .finish (.error (.atFirstLine "OSError" e.message)) state

/-- Draws on a document. An error of drawing or of storing the document is raised. -/
def drawing (patches : PatchSet) (state : σ) (next : Program σ) :
    List DrawingStep → Document → Program σ
  | [], _ => next
  | .draw command :: steps, d =>
    match (patches.apply Document.backend).run command d with
    | (.ok (), d) => drawing patches state next steps d
    | (.error e, _) => .finish (.error (.atFirstLine "FPDFException" e.message)) state
  | .output name :: steps, d =>
    .write name d.bytes fun
      | .ok () => drawing patches state next steps d
      | .error e =>
        .finish (.error (.atFirstLine "FPDFException" (DrawError.storage name e.message).message))
          state

def program (patches : PatchSet) (state : σ) (next : Program σ) : Action → Program σ
  | .print text => .print text next
  | .define name => .define name next
  | .replace names => .replace names next
  | .record producer => .record producer next
  | .sleep ms => .sleep ms state next
  | .raise e => .finish (.error e) state
  | .write name bytes => .write name bytes (orRaise state next)
  | .remove name => .remove name (orRaise state next)
  | .document steps => drawing patches state next steps .empty

def programs (patches : PatchSet) (state : σ) (actions : List Action) : Program σ :=
  actions.foldr (fun a next => a.program patches state next) (.finish (.ok ()) state)

end Action

structure Behaviour where
  withoutArg : List Action
  withArg : List Action

structure Scenario where
  /-- What compiling answers, time after time; the last answer stays. -/
  compiles : List (Option CompileFailure)
  body : List Action
  functions : List (String × Behaviour)

namespace Scenario

/-- The next of the prepared answers, and those behind it. Without any, every script compiles. -/
def nextAnswer :
    List (Option CompileFailure) → Option CompileFailure × List (Option CompileFailure)
  | [] => (none, [])
  | [a] => (a, [a])
  | a :: b :: as => (a, b :: as)

def called (s : Scenario) (function : String) (arg : Option String) : List Action :=
  match s.functions.lookup function with
  | some b => if arg.isSome then b.withArg else b.withoutArg
  | none => []

def interpreter (s : Scenario) : Interpreter (List (Option CompileFailure)) where
  name := "mock"
  compile _ answers := nextAnswer answers
  execute _ context answers := Action.programs context.patches answers s.body
  invoke function arg context answers :=
    Action.programs context.patches answers (s.called function arg)

end Scenario

end ScriptPress
