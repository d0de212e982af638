import ScriptPress.Script.Assignment
import ScriptPress.Script.Comment
import ScriptPress.Script.Keyword
import ScriptPress.Script.Nesting

/-!
# Repairing a line

One deterministic repair of a line that does not compile. Indentation and trailing comment stay as
they are; in between, the first of four rules that applies changes the statement:

1. a block header without its colon gets it;
2. in a condition without a comparison, the only `=` becomes `==`;
3. an assignment of nothing assigns `None`;
4. an assignment of bare values separated by commas assigns a list of them.

Then, always, an open string literal is closed, a print statement becomes a call, and the open
delimiters are closed in reverse order.

## Main definitions

* `repairStatement` — the first four rules.
* `closeQuote`, `callPrint`, `closeDelimiters` — the closing steps.
* `repairLine` — all of it on a line without its ending.
-/

namespace ScriptPress.Repair

open Text Script

/-! ## The statement rules -/

def lacksColon (code : List Char) : Bool :=
  (blockKeyword? code).isSome && !endsWith ':' code

/-- The cut at the assignment sign that a condition has in place of its comparison. -/
def conditionAssignment? (code : List Char) : Option (List Char × List Char) :=
  if startsCondition code && !comparesValues code then
    match assignments code with
    | [cut] => some cut
    | _ => none
  else none

/-- What follows a subscript in brackets; a text without one is left as it is. -/
def skipSubscript (s : List Char) : List Char :=
  match s with
  | '[' :: inner =>
    match inner.dropWhile (· != ']') with
    | _ :: rest => rest
    | [] => s
  | _ => s

def isNameStart (c : Char) : Bool := c.isAlpha || c == '_'

/-- Whether the line assigns nothing to a name, an attribute or an element. -/
def assignsNothing (code : List Char) : Bool :=
  match code with
  | c :: s =>
    isNameStart c &&
      trimStart (skipSubscript (s.dropWhile fun d => isWord d || d == '.')) == ['=']
  | [] => false

/-- The cut at the assignment sign in front of bare values with commas. -/
def bareTuple? (code : List Char) : Option (List Char × List Char) :=
  if code.contains ',' && !code.contains '[' && !code.contains '(' then
    (assignments code).head?
  else none

/-- The statement after the first of the four rules that applies. -/
def repairStatement (code : List Char) : List Char :=
  if lacksColon code then code ++ [':']
  else
    match conditionAssignment? code with
    | some (left, right) => left ++ "==".toList ++ right
    | none =>
      if assignsNothing code then code ++ " None".toList
      else
        match bareTuple? code with
        | some (left, right) => trimEnd left ++ " = [".toList ++ trim right ++ "]".toList
        | none => code

/-! ## The closing steps -/

def closeQuote (code : List Char) : List Char := code ++ (openQuote? code).toList

def printed? (code : List Char) : Option (List Char) := do
  let rest ← startsWith? "print".toList code
  let value := trimStart rest
  guard (value.length < rest.length && !value.isEmpty && !value.contains '\n')
  return trimEnd value

/-- The line with a call in place of a print statement, unless it holds a parenthesis already. -/
def callPrint (code : List Char) : List Char :=
  if code.contains '(' then code
  else
    match printed? code with
    | some value => "print(".toList ++ value ++ ")".toList
    | none => code

def closeDelimiters (code : List Char) : List Char := code ++ closers code

/-! ## A whole line -/

/-- The repaired code of a line that has neither indentation nor comment. -/
def repairCode (code : List Char) : List Char :=
  closeDelimiters (callPrint (closeQuote (repairStatement (trimEnd code))))

/-- The repaired line: its indentation, its code repaired, its comment. -/
def repairLine (line : List Char) : List Char :=
  let body := trimStart line
  line.takeWhile isBlank ++ repairCode (splitComment body).1 ++ (splitComment body).2

end ScriptPress.Repair
