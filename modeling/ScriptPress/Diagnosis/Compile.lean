import ScriptPress.Diagnosis.Finding
import ScriptPress.Script.Assignment
import ScriptPress.Script.Comment
import ScriptPress.Script.Keyword

/-!
# Finding the cause of a compile failure

The offending line is looked at first, for the mistakes that pasted scripts make over and over.
Where none shows, the message of the compiler is searched for known phrases.

## Main definitions

* `CompileFailure` — the compiler's report.
* `findInLine?` — the cause that shows on a line.
* `findInMessage` — the cause that a message speaks of.
-/

namespace ScriptPress

open Text Script

inductive CompileFailureKind where
  | syntaxError
  | indentation
  deriving DecidableEq, Repr

structure CompileFailure where
  kind : CompileFailureKind
  message : String
  /-- The line, counted from 1, when the compiler knows it. -/
  line : Option UInt64
  deriving DecidableEq, Repr

namespace Diagnosis

/-! ## Line rules -/

def isPrintStatement (code : List Char) : Bool :=
  match startsWith? "print".toList (trimStart code) with
  | some (c :: _) => isBlank c && !code.contains '('
  | _ => false

/-- The cause that shows on the code of a line, by the first rule that applies. -/
def findInCode? (code : List Char) : Option Finding :=
  if isBlankText code then none
  else if endsWithKeyword code then some .bareKeyword
  else
    match blockKeyword? code, endsWith ':' code with
    | some keyword, false => some (.missingColon (String.ofList keyword))
    | _, _ =>
      if mentionsIf code && !(assignments code).isEmpty then some .assignmentInCondition
      else if code.count ')' < code.count '(' then some .unclosedParenthesis
      else if code.count '(' < code.count ')' then some .extraParenthesis
      else if code.count ']' < code.count '[' then some .unclosedBracket
      else if isPrintStatement code then some .printStatement
      else none

/-- The cause that shows on a line; its comment says nothing. -/
def findInLine? (line : List Char) : Option Finding :=
  findInCode? (trimEnd (splitComment line).1)

/-! ## Message rules -/

/-- Whether `':'` stands behind the word `expected` on one line of the message. -/
def expectsColon : List Char → Bool
  | [] => false
  | c :: s =>
    match startsWith? "expected ".toList (c :: s) with
    | some rest => occursIn "':'".toList (rest.takeWhile (· != '\n')) || expectsColon s
    | none => expectsColon s

/-- The cause that a compiler's message speaks of. Upper and lower case are the same; the phrases
are in ASCII, and no character outside ASCII has a lower case that one of them could hold. -/
def findInMessage (message : List Char) (kind : CompileFailureKind) : Finding :=
  let lower := message.map Char.toLower
  let mentions (phrase : String) := occursIn phrase.toList lower
  if mentions "unexpected eof" || mentions "was never closed" then .unexpectedEnd
  else if mentions "unterminated string" || mentions "unterminated triple-quoted" ||
      mentions "eol while scanning" then .unterminatedString
  else if mentions "invalid syntax" then .invalidSyntax
  else if mentions "unmatched" then .unmatchedBracket
  else if expectsColon lower then .expectedColon
  else
    match kind with
    | .indentation => .badIndentation
    | .syntaxError => .unknownSyntax

end Diagnosis

end ScriptPress
