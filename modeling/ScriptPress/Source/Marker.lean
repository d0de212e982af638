import ScriptPress.Text.Digit
import ScriptPress.Text.Piece

/-!
# Markers of a chat

What a chat window puts around and into a pasted script: fences of three backticks, with or without
the word `python`, and citation markers. None of it belongs to the script.

## Main definitions

* `fence`, `citeStart`, `citeNumber`, `citeEnd` — recognisers of the markers.
* `stripMarkers` — the script without them, kind by kind.
-/

namespace ScriptPress.Source

open Text

def literal (t : List Char) : Recogniser := fun s =>
  (startsWith? t s).map fun _ => t.length - 1

/-- Recognises a fence; one that names the language goes as a whole. -/
def fence : Recogniser := fun s =>
  (literal "```python".toList s).or (literal "```".toList s)

def citeStart : Recogniser := literal "[cite_start]".toList

def citeEnd : Recogniser := literal "[cite_end]".toList

/-- Recognises `[cite: n]` for a number of one or more decimal digits. -/
def citeNumber : Recogniser := fun s => do
  let rest ← startsWith? "[cite: ".toList s
  let digits := rest.takeWhile isDigit
  guard !digits.isEmpty
  guard ((rest.drop digits.length).head? == some ']')
  return "[cite: ".length + digits.length

/-- The script without fences, then without the citation markers of each kind. -/
def stripMarkers (s : List Char) : List Char :=
  removeAll citeEnd (removeAll citeNumber (removeAll citeStart (removeAll fence s)))

end ScriptPress.Source
