import ScriptPress.CommandLine.Options
import ScriptPress.Exchange.Output
import ScriptPress.Text.Line

/-!
# Messages of the command

What the command prints: a summary of a request, a diagnosis, or the error that kept it from
delivering. Colours are always on.

## Main definitions

* `diagnosisText`, `summaryText` — for readers.
* `jsonText` — for programs.
* `errorText` — an error with everything that caused it.
-/

namespace ScriptPress.CommandLine

open Text

/-! ## Colours -/

def styled (code s : String) : String := s!"\x1b[{code}m{s}\x1b[0m"

def green : String → String := styled "32"

def red : String → String := styled "31"

def yellow : String → String := styled "33"

def dim : String → String := styled "2"

def bold : String → String := styled "1"

/-! ## For readers -/

def indentedLines (f : String → String) (s : String) : String :=
  String.join ((lines s.toList).map fun l => s!"  {f (String.ofList l)}\n")

def diagnosisText (d : Diagnosis) : String :=
  let cross := red "✗"
  let arrow := dim "→"
  let heading := dim "Proposed fix:"
  s!"{cross} {bold d.display}\n  {d.explanation}\n  {arrow} {d.suggestion}\n" ++
    match d.proposedFix with
    | some fix => s!"\n{heading}\n{indentedLines id fix}"
    | none => ""

def outcomeText : Outcome → String
  | .saved => "saved by your code"
  | .fromStdout => "typeset from printed output"
  | .autoInvoked function => s!"produced by calling {function}() (experimental)"
  | .fallback => "error report"

def findingsText (o : Output) : String :=
  match o.outcome, o.diagnosis, o.proposedFix with
  | .fallback, some d, _ => diagnosisText d
  | _, diagnosis, some fix =>
    let warning := yellow "⚠"
    let first := match diagnosis with
      | some d => s!"{warning} {d.display}\n"
      | none => ""
    s!"{first}{warning} ran an auto-fixed version of your code:\n{indentedLines dim fix}"
  | _, _, none => ""

def summaryText (o : Output) (path : String) : String :=
  let sign := if o.outcome.isFallback then red "✘" else green "✔"
  findingsText o ++
    s!"{sign}  {outcomeText o.outcome}  {o.stats.totalMs.toNat}ms  →  {bold path}\n"

def compilesText : String := green "✔" ++ " code compiles\n"

def versionText : String := "code2pdf 0.1.0\n"

def usageText : String :=
  let options := Flag.byName.map fun (name, flag) =>
    match flag with
    | .parameter _ => "  -" ++ "-" ++ name ++ " <value>\n"
    | _ => "  -" ++ "-" ++ name ++ "\n"
  "Usage: code2pdf [options] <input>\n\nOptions:\n" ++ String.join options

/-! ## For programs -/

/-- A record with a line of its own for every part. -/
def jsonText (j : Json) : String := j.prettyText ++ "\n"

/-! ## Errors -/

/-- A text behind a margin; its further lines stand behind `margin`. -/
def hanging (first margin s : String) : String :=
  first ++ String.intercalate s!"\n{margin}"
    ((pieces (· == '\n') s.toList).map String.ofList)

def numberedMargin (n : Nat) : String :=
  let digits := toString n
  "".pushn ' ' (5 - digits.length) ++ digits ++ ": "

/-- What caused an error, the nearest first, with numbers if there is more than one. -/
def causesText : List String → String
  | [] => ""
  | [cause] => "\n\nCaused by:\n" ++ hanging "    " "    " cause
  | causes =>
    let numbered := causes.zipIdx.map fun (cause, n) =>
      hanging (numberedMargin n) "       " cause
    "\n\nCaused by:\n" ++ String.intercalate "\n" numbered

/-- What the command was about when it failed, and what caused it. -/
def errorText (context : String) (causes : List String) : String :=
  s!"Error: {context}{causesText causes}\n"

def causesOf (e : ConversionError) : List String := e.message :: e.cause?.toList

end ScriptPress.CommandLine
