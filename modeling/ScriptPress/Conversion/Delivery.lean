import ScriptPress.Conversion.Report
import ScriptPress.Conversion.Run

/-!
# Deliveries

What a run that ended well has to deliver: the documents that it saved, else a document of what it
printed, else what a function of the script leaves behind when it is called.

## Main definitions

* `Delivery` — documents, and how they came to be.
* `Resolution` — a delivery, or why there is none.
* `Conversion.autoInvoke` — functions are called one after the other until there is a document.
* `Conversion.resolve` — the delivery of a run.
-/

namespace ScriptPress

open Text

/-- Documents in the sandbox, and how they came to be. -/
structure Delivery where
  outcome : Outcome
  artifacts : List String
  deriving DecidableEq, Repr

/-- What a run that ended well has to deliver. -/
inductive Resolution where
  | delivered (delivery : Delivery)
  | failed (diagnosis : Diagnosis)
  /-- The time limit for calls ends later than the clock can tell. -/
  | beyondClock
  deriving DecidableEq, Repr

structure ResolveOptions where
  fontSize : Option UInt32
  autoInvoke : Bool
  /-- The time for all calls of functions together, in milliseconds. -/
  limit : Nat

inductive Attempt where
  | nothing
  /-- No more calls: time is up, or the files cannot be listed. -/
  | stopped
  | produced (function : String) (pdfs : List String)
  deriving DecidableEq, Repr

namespace Conversion

variable {σ : Type}

/-- Calls a function with each argument in turn, as long as the calls raise. -/
def tryFunction (interpreter : Interpreter σ) (deadline : Nat) (function : String) :
    List (Option String) → Context → Conversion σ (Attempt × Context)
  | [], c => return (.nothing, c)
  | arg :: args, c => do
    let (ending, _, c) ← invoke interpreter deadline function arg c
    match ending with
    | none => return (.stopped, c)
    | some (.error _) => tryFunction interpreter deadline function args c
    | some (.ok ()) =>
      match ← listPdfs with
      | .error _ => return (.stopped, c)
      | .ok [] => return (.nothing, c)
      | .ok pdfs => return (.produced function pdfs, c)

/-- Calls functions one after the other until one leaves a document: first without an argument, and
with the name of a document if that raises. -/
def tryFunctions (interpreter : Interpreter σ) (deadline : Nat) :
    List String → Context → Conversion σ (Attempt × Context)
  | [], c => return (.nothing, c)
  | function :: functions, c => do
    match ← tryFunction interpreter deadline function [none, some printoutName] c with
    | (.nothing, c) => tryFunctions interpreter deadline functions c
    | attempt => return attempt

def autoInvoke (interpreter : Interpreter σ) (c : Context) (limit : Nat) :
    Conversion σ (Resolution × Context) := do
  match deadline? (← now) limit with
  | none => return (.beyondClock, c)
  | some deadline =>
    match ← tryFunctions interpreter deadline c.functions.functions c with
    | (.produced function pdfs, c) => return (.delivered ⟨.autoInvoked function, pdfs⟩, c)
    | (.nothing, c) | (.stopped, c) => return (.failed .noOutput, c)

def savedOutcome (c : Context) : Outcome :=
  match c.autoInvoked with
  | some (.produced function) => .autoInvoked function
  | _ => .saved

def resolve (interpreter : Interpreter σ) (c : Context) (pdfs : List String) (printed : String)
    (options : ResolveOptions) : Conversion σ (Resolution × Context) := do
  if !pdfs.isEmpty then return (.delivered ⟨savedOutcome c, pdfs⟩, c)
  else if !isBlankText printed.toList then
    match ← writePrintout printed options.fontSize with
    | .ok name => return (.delivered ⟨.fromStdout, [name]⟩, c)
    | .error e =>
      return (.failed (.system s!"could not typeset printed output: {e.message}"), c)
  else if options.autoInvoke && !c.functions.isEmpty && c.autoInvoked.isNone then
    autoInvoke interpreter c options.limit
  else return (.failed .noOutput, c)

end Conversion

end ScriptPress
