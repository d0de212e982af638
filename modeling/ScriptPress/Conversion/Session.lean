import ScriptPress.Conversion.Config
import ScriptPress.Conversion.Event
import ScriptPress.Interpreter.Basic

/-!
# Sessions

Requests work on a session: a sandbox, a clock, an interpreter's state, and a journal of everything
that was called, printed, defined, accessed and told to listeners. Time passes only while a script
sleeps.

## Main definitions

* `Exchange` — a call of the interpreter and what came of it.
* `Entry`, `Session` — the journal and what it is about.
* `Conversion` — work on a session.
* `Conversion.list`, `Conversion.read`, … — the calls that a request makes itself.
* `Conversion.play` — a script that runs until it ends or its time is up.
* `Job`, `Conversion.ask` — calls of the interpreter.
-/

namespace ScriptPress

/-! ## Journals -/

inductive InterpreterCall where
  | compile (script : String)
  /-- The executed script, and the one of its context. -/
  | execute (script context : String)
  | invoke (function : String) (arg : Option String)
  deriving DecidableEq, Repr

inductive Ended where
  | returned
  | raised (e : RuntimeException)
  | timedOut
  deriving DecidableEq, Repr

/-- The end of a run; an ending of `none` says that its time was up. -/
def Ended.of : Option Ending → Ended
  | some (.ok ()) => returned
  | some (.error e) => raised e
  | none => timedOut

inductive Exchange where
  | compile (script : String) (failure : Option CompileFailure)
  | execute (script context : String) (ended : Ended)
  | invoke (function : String) (arg : Option String) (ended : Ended)
  deriving DecidableEq, Repr

def Exchange.call : Exchange → InterpreterCall
  | compile script _ => .compile script
  | execute script context _ => .execute script context
  | invoke function arg _ => .invoke function arg

inductive Access where
  | list
  | read (name : String)
  | write (name : String) (bytes : Bytes)
  | remove (name : String)
  deriving DecidableEq, Repr

inductive Actor where
  | request
  | script
  deriving DecidableEq, Repr

inductive Entry where
  | told (event : Event)
  | called (call : InterpreterCall)
  /-- The call made last is over. -/
  | answered (exchange : Exchange)
  | printed (text : String)
  /-- A script defined a function. -/
  | defined (name : String)
  /-- The functions of a script are these alone from then on. -/
  | replaced (names : List String)
  /-- The interpreter called functions by itself, and the named one left a document. -/
  | recorded (producer : Option String)
  /-- A call of the store, and whether it succeeded. -/
  | accessed (actor : Actor) (access : Access) (ok : Bool)
  /-- Another program put a file beside those of the script. -/
  | placed (name bytes : Bytes)
  /-- Time passed. -/
  | slept (ms : Nat)
  deriving DecidableEq, Repr

structure Session (σ : Type) where
  sandbox : Sandbox
  /-- Milliseconds since the session began. -/
  clock : Nat
  /-- The state of the interpreter. -/
  state : σ
  journal : List Entry

namespace Session

variable {σ : Type}

def new (sandbox : Sandbox) (state : σ) : Session σ := ⟨sandbox, 0, state, []⟩

def note (e : Entry) (s : Session σ) : Session σ := { s with journal := s.journal ++ [e] }

def withStore (store : Store) (s : Session σ) : Session σ :=
  { s with sandbox := { s.sandbox with store := store } }

def sleep (ms : Nat) (s : Session σ) : Session σ :=
  { s with clock := s.clock + ms, journal := s.journal ++ [.slept ms] }

/-- Another program puts a file beside those of the script, where it can. -/
def place (name bytes : Bytes) (s : Session σ) : Session σ :=
  let placed := s.withStore (s.sandbox.store.place name bytes)
  if s.sandbox.store.takes name then placed.note (.placed name bytes) else placed

/-- Carries out a call of the store and notes it. -/
def access {α : Type} (actor : Actor) (a : Access)
    (call : Store → Except StoreError α × Store) (s : Session σ) :
    Except StoreError α × Session σ :=
  let (answer, store) := call s.sandbox.store
  (answer, (s.withStore store).note (.accessed actor a answer.isOk))

def events (s : Session σ) : List Event :=
  s.journal.filterMap fun
    | .told e => some e
    | _ => none

def calls (s : Session σ) : List InterpreterCall :=
  s.journal.filterMap fun
    | .called c => some c
    | _ => none

def exchanges (s : Session σ) : List Exchange :=
  s.journal.filterMap fun
    | .answered x => some x
    | _ => none

end Session

/-! ## Work -/

abbrev Conversion (σ : Type) := StateM (Session σ)

namespace Conversion

variable {σ : Type}

def note (e : Entry) : Conversion σ Unit := modify (Session.note e)

def tell (e : Event) : Conversion σ Unit := note (.told e)

def now : Conversion σ Nat := return (← get).clock

/-- Work that is told to listeners as a stage, and the time it takes. -/
def stage {α : Type} (stage : Stage) (work : Conversion σ α) : Conversion σ (α × UInt64) := do
  let started ← now
  tell (.started stage)
  let a ← work
  tell (.completed stage)
  return (a, .ofNat ((← now) - started))

/-! ## Calls of the store -/

def list : Conversion σ (Except StoreError (List String)) :=
  modifyGet (Session.access .request .list Store.list)

def listPdfs : Conversion σ (Except StoreError (List String)) := Store.pdfsBy list

def read (name : String) : Conversion σ (Except StoreError Bytes) :=
  modifyGet (Session.access .request (.read name) (Store.read name))

def write (name : String) (bytes : Bytes) : Conversion σ (Except StoreError Unit) :=
  modifyGet (Session.access .request (.write name bytes) (Store.write name bytes))

def remove (name : String) : Conversion σ (Except StoreError Unit) :=
  modifyGet (Session.access .request (.remove name) (Store.remove name))

def removePdfs : Conversion σ (Except StoreError Nat) := Store.removePdfsBy list remove

/-! ## Running programs -/

/-- Runs a program until it ends or the clock would pass the deadline. An ending of `none` says that
its time was up: what it did before stays done, and the rest is not done. -/
def run (deadline : Nat) :
    Program σ → Context → Session σ → (Option Ending × Context) × Session σ
  | .finish ending state, c, s => ((some ending, c), { s with state := state })
  | .print text next, c, s => run deadline next (c.print text) (s.note (.printed text))
  | .define name next, c, s => run deadline next (c.define name) (s.note (.defined name))
  | .replace names next, c, s => run deadline next (c.replace names) (s.note (.replaced names))
  | .record producer next, c, s =>
    run deadline next (c.record producer) (s.note (.recorded producer))
  | .sleep ms interrupted next, c, s =>
    if s.clock + ms ≤ deadline then run deadline next c (s.sleep ms)
    else ((none, c), { s.sleep (deadline - s.clock) with state := interrupted })
  | .list next, c, s =>
    let (answer, s) := s.access .script .list Store.list
    run deadline (next answer) c s
  | .read name next, c, s =>
    let (answer, s) := s.access .script (.read name) (Store.read name)
    run deadline (next answer) c s
  | .write name bytes next, c, s =>
    let (answer, s) := s.access .script (.write name bytes) (Store.write name bytes)
    run deadline (next answer) c s
  | .remove name next, c, s =>
    let (answer, s) := s.access .script (.remove name) (Store.remove name)
    run deadline (next answer) c s
  | .place name bytes next, c, s => run deadline next c (s.place name bytes)

/-- Runs a program with its output captured. -/
def play (deadline : Nat) (program : Program σ) (c : Context) :
    Conversion σ (Option Ending × String × Context) := do
  let (previous, c) := c.redirect
  let (ending, c) ← modifyGet (run deadline program c)
  let (printed, c) := c.restore previous
  return (ending, printed, c)

end Conversion

/-! ## Calls of the interpreter -/

/-- What the interpreter is called for, with all that the call is made with. A script and a function
of it run in a context and up to a deadline. -/
inductive Job where
  | compile (script : String)
  | execute (deadline : Nat) (script : String) (context : Context)
  | invoke (deadline : Nat) (function : String) (arg : Option String) (context : Context)

namespace Job

def call : Job → InterpreterCall
  | compile script => .compile script
  | execute _ script c => .execute script c.script
  | invoke _ function arg _ => .invoke function arg

/-- What a job gives. That of a run is its ending, what was printed, and the context behind it. -/
@[reducible] def Result : Job → Type
  | compile _ => Option CompileFailure
  | execute .. | invoke .. => Option Ending × String × Context

def exchange : (job : Job) → job.Result → Exchange
  | compile script, failure => .compile script failure
  | execute _ script c, result => .execute script c.script (.of result.1)
  | invoke _ function arg _, result => .invoke function arg (.of result.1)

variable {σ : Type}

def carryOut (interpreter : Interpreter σ) : (job : Job) → Conversion σ job.Result
  | compile script =>
    modifyGet fun s =>
      let (failure, state) := interpreter.compile script s.state
      (failure, { s with state := state })
  | execute deadline script c => do
    Conversion.play deadline (interpreter.execute script c.redirect.2 (← get).state) c
  | invoke deadline function arg c => do
    Conversion.play deadline (interpreter.invoke function arg c.redirect.2 (← get).state) c

end Job

namespace Conversion

variable {σ : Type}

/-- Calls the interpreter. The entry of the call is that of the job which is carried out. -/
def ask (interpreter : Interpreter σ) (job : Job) : Conversion σ job.Result := do
  note (.called job.call)
  let result ← job.carryOut interpreter
  note (.answered (job.exchange result))
  return result

def compile (interpreter : Interpreter σ) (script : String) :
    Conversion σ (Option CompileFailure) :=
  ask interpreter (.compile script)

def execute (interpreter : Interpreter σ) (deadline : Nat) (script : String) (c : Context) :
    Conversion σ (Option Ending × String × Context) :=
  ask interpreter (.execute deadline script c)

def invoke (interpreter : Interpreter σ) (deadline : Nat) (function : String) (arg : Option String)
    (c : Context) : Conversion σ (Option Ending × String × Context) :=
  ask interpreter (.invoke deadline function arg c)

end Conversion

end ScriptPress
