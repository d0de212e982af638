import ScriptPress.Binary32.Decimal
import ScriptPress.Text.Piece

/-!
# Errors of drawing

## Main definitions

* `DrawError`, `DrawError.message` — why a drawing call failed.
* `isEncodingMessage` — whether a message speaks of a character that a font cannot show; a message
  may come from elsewhere, so the words decide and not the constructor.
-/

namespace ScriptPress.Page

open Text

inductive DrawError where
  | noPageOpen
  | notEnoughSpace (width : Binary32)
  /-- The character at a place of a text has no byte in the font's encoding. -/
  | encoding (ch : Char) (index : Nat) (font : String)
  | serialisation (detail : String)
  | storage (name detail : String)
  deriving DecidableEq, Repr

namespace DrawError

def message : DrawError → String
  | noPageOpen => "No page open, you need to call add_page() first"
  | notEnoughSpace width =>
    "Not enough horizontal space to render a single character (width " ++ width.toPlaces ++ "mm)"
  | encoding ch index font =>
    "Character \"" ++ String.singleton ch ++ s!"\" at index {index} in text is outside the " ++
      "range of characters supported by the font used: \"" ++ font ++ "\""
  | serialisation detail => s!"PDF serialisation failed: {detail}"
  | storage name detail => s!"Could not store '{name}': {detail}"

end DrawError

def encodingPhrases : List String := ["outside the range", "codec can't encode", "character map"]

/-- Whether a message speaks of a character that a font cannot show. Upper and lower case are the
same; the phrases are in ASCII, and no character outside ASCII has a lower case that one of them
could hold. -/
def isEncodingMessage (message : String) : Bool :=
  let lower := message.toList.map Char.toLower
  encodingPhrases.any fun phrase => occursIn phrase.toList lower

/-- Whether drawing the text again in another encoding may help. -/
def DrawError.isEncoding (e : DrawError) : Bool := isEncodingMessage e.message

end ScriptPress.Page
