import ScriptPress.Diagnosis.Basic
import ScriptPress.Interpreter.Context
import ScriptPress.Store.Basic

/-!
# Interpreters

Something that compiles and runs scripts. Conversion never looks inside an interpreter: it sees
compile failures, exceptions, and what a running script does to its surroundings. A run is a tree of
such actions, so every course that a script can take is a value that can be played.

## Main definitions

* `Program` — what a running script does, step by step.
* `Interpreter` — compiles, executes and invokes, over a state of its own.
-/

namespace ScriptPress

abbrev Ending := Except RuntimeException Unit

/-- What a running script does. Each branch that gives an answer goes on with what the answer is.
The interpreter's own state is known where the script ends or may be interrupted. -/
inductive Program (σ : Type) where
  | finish (ending : Ending) (state : σ)
  | print (text : String) (next : Program σ)
  | define (name : String) (next : Program σ)
  | replace (names : List String) (next : Program σ)
  | record (producer : Option String) (next : Program σ)
  | sleep (ms : Nat) (interrupted : σ) (next : Program σ)
  | list (next : Except StoreError (List String) → Program σ)
  | read (name : String) (next : Except StoreError Bytes → Program σ)
  | write (name : String) (bytes : Bytes) (next : Except StoreError Unit → Program σ)
  | remove (name : String) (next : Except StoreError Unit → Program σ)
  /-- Another program puts a file beside those of the script. -/
  | place (name bytes : Bytes) (next : Program σ)

structure Interpreter (σ : Type) where
  name : String
  /-- Why a script does not compile, if it does not. -/
  compile : String → σ → Option CompileFailure × σ
  /-- Runs a script from top to bottom. -/
  execute : String → Context → σ → Program σ
  /-- Calls a function that the last execution defined, without an argument or with one. -/
  invoke : String → Option String → Context → σ → Program σ

end ScriptPress
