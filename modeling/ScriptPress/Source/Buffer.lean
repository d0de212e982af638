import ScriptPress.Source.FontSize
import ScriptPress.Source.Marker

/-!
# Pasted source

The text of a request as it was pasted, and the script that is run for it: without the markers of a
chat, with the requested font size, without white space at its ends.

## Main definitions

* `clean` — from pasted text to script.
* `SourceBuffer` — the pasted text with the font size that was asked for.
* `SourceBuffer.script` — the script that is run.
-/

namespace ScriptPress.Source

open Text

/-- The script in a pasted text. No size, and size 0, leave the sizes of the script alone. -/
def clean (text : List Char) (fontSize : Option Nat) : List Char :=
  let script := stripMarkers text
  trim <|
    match fontSize with
    | some (n + 1) => resizeFonts (n + 1) script
    | _ => script

end ScriptPress.Source

namespace ScriptPress

open Source

/-- A pasted text, never changed, and the font size asked for. -/
structure SourceBuffer where
  text : String
  fontSize : Option UInt32
  deriving DecidableEq, Repr

namespace SourceBuffer

/-- A pasted text with a font size; size 0 counts as none. -/
def new (text : String) (fontSize : Option UInt32) : SourceBuffer where
  text := text
  fontSize := fontSize.filter (0 < ·)

def script (b : SourceBuffer) : String :=
  String.ofList (clean b.text.toList (b.fontSize.map UInt32.toNat))

end SourceBuffer

end ScriptPress
