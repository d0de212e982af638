import ScriptPress.Diagnosis.Kind
import ScriptPress.Diagnosis.Finding
import ScriptPress.Text.Piece

/-!
# Exceptions of a script

An exception that escaped a script, with the frames it came through, and the cause that its message
names.

## Main definitions

* `Frame`, `RuntimeException` — the exception and its trace, outermost frame first.
* `RuntimeException.userLine?` — the line of the script it came from.
* `findInException` — the cause of an exception that is no compile failure.
-/

namespace ScriptPress

open Text

def scriptUnit : String := "<exec>"

structure Frame where
  filename : String
  line : Option UInt64
  deriving DecidableEq, Repr

structure RuntimeException where
  typeName : String
  message : String
  /-- The trace, outermost frame first. -/
  frames : List Frame
  deriving DecidableEq, Repr

namespace RuntimeException

/-- The line of the innermost frame in the script. -/
def userLine? (e : RuntimeException) : Option UInt64 :=
  (e.frames.reverse.find? (·.filename = scriptUnit)).bind (·.line)

def display (e : RuntimeException) : String := s!"{e.typeName}: {e.message}"

end RuntimeException

namespace Diagnosis

/-- The `n`-th piece of a text between quote characters, where a quote follows it and it is not
empty; the odd pieces stand inside quotes. -/
def quotedPiece? (text : List Char) (n : Nat) : Option (List Char) :=
  let ps := pieces (fun c => c == '\'' || c == '"') text
  match ps[n]? with
  | some p => if n + 1 < ps.length && n % 2 == 1 && !p.isEmpty then some p else none
  | none => none

def quotedPiece (message : String) (n : Nat) (standIn : String) : String :=
  ((quotedPiece? message.toList n).map String.ofList).getD standIn

def unknownIdentifier : String := "this name"

def findInException (kind : ErrorKind) (message : String) : Finding :=
  match kind with
  | .name => .undefinedName (quotedPiece message 1 unknownIdentifier)
  | .member =>
    .missingMember (quotedPiece message 1 "This object") (quotedPiece message 3 unknownIdentifier)
  | .importing =>
    let position :=
      if (startsWith? "cannot import name".toList message.toList).isSome then 3 else 1
    .failedImport (quotedPiece message position unknownIdentifier)
  | .type => .wrongType
  | .index => .badIndex
  | .key => .badKey
  | .system => .system
  | _ => .exception

end Diagnosis

end ScriptPress
