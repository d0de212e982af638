import ScriptPress.Interpreter.Namespace
import ScriptPress.Page.Backend
import ScriptPress.Text.Quoted
import ScriptPress.Text.Utf8

/-!
# Contexts

What a script sees and leaves behind while an interpreter runs it, its files apart. A context is
made afresh for every request.

## Main definitions

* `Context` — the script, its printed output, its functions, and what may be called by itself.
* `Context.print`, `Context.redirect`, `Context.restore` — captured output; captures nest, and the
  sink that was in place before is held by who began the capture.
-/

namespace ScriptPress

open Text

inductive AutoInvocation where
  /-- Every candidate was called, and none left a document. -/
  | nothing
  | produced (function : String)
  deriving DecidableEq, Repr

structure Context where
  script : String
  /-- The text that was printed since output is captured. -/
  sink : Option String
  functions : Namespace
  /-- The argument for functions that are called by themselves, where that is allowed. -/
  autoInvokeArg : Option String
  /-- What the interpreter has done about it. -/
  autoInvoked : Option AutoInvocation
  /-- The patches of the documents that the script draws on. -/
  patches : Page.PatchSet
  /-- Whether other programs can reach the files of the script. -/
  rooted : Bool

namespace Context

def new (script : String) (patches : Page.PatchSet) (rooted : Bool) : Context where
  script := script
  sink := none
  functions := .empty
  autoInvokeArg := none
  autoInvoked := none
  patches := patches
  rooted := rooted

/-! ## Printed output -/

/-- Prints a text; it is kept if output is captured. -/
def print (text : String) (c : Context) : Context := { c with sink := c.sink.map (· ++ text) }

/-- Begins a capture. The sink that was in place before is handed out. -/
def redirect (c : Context) : Option String × Context := (c.sink, { c with sink := some "" })

/-- Ends a capture and puts a sink in place. The captured text is handed out. -/
def restore (previous : Option String) (c : Context) : String × Context :=
  (c.sink.getD "", { c with sink := previous })

@[simp] theorem sink_restore (previous : Option String) (c : Context) :
    (c.restore previous).2.sink = previous := rfl

/-! ## Functions -/

def define (name : String) (c : Context) : Context :=
  { c with functions := c.functions.define name }

def replace (names : List String) (c : Context) : Context :=
  { c with functions := .replace names }

def allowAutoInvoke (arg : String) (c : Context) : Context := { c with autoInvokeArg := some arg }

/-- Records that functions were called by themselves, and which of them left a document. -/
def record (producer : Option String) (c : Context) : Context :=
  { c with autoInvoked := some (producer.elim .nothing .produced) }

/-! ## Reports -/

def autoInvocationSummary : AutoInvocation → String
  | .nothing => "NothingProduced"
  | .produced f => s!"Produced({quoted f})"

def summary (c : Context) : String :=
  s!"ExecutionContext \x7b code_len: {utf8Length c.script.toList}, " ++
    s!"capturing: {c.sink.isSome}, namespace: Namespace \x7b functions: [" ++
    String.intercalate ", " (c.functions.functions.map quoted) ++ "] \x7d, auto_invoke_arg: " ++
    optionText (c.autoInvokeArg.map quoted) ++ ", auto_invoked: " ++
    optionText (c.autoInvoked.map autoInvocationSummary) ++ " \x7d"

end Context

end ScriptPress
