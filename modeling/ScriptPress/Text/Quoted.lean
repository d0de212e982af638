import ScriptPress.Text.Printable

/-!
# Quoted text

A text between double quotes, with escapes for what would not show: `\t`, `\r`, `\n`, `\0`, a
backslash in front of a quote or a backslash, and the code point in braces for the other characters
that are not printable or would join the character before them.

## Main definitions

* `quoted` — the quoted form of a text.
* `optionText` — a value that may be missing.
-/

namespace ScriptPress.Text

/-- The escape with the hexadecimal code point of `c` in braces. -/
def codePointEscape (c : Char) : List Char :=
  ['\\', 'u', '\x7b'] ++ Nat.toDigits 16 c.toNat ++ ['\x7d']

/-- One character inside a quoted text. -/
def quotedChar (c : Char) : List Char :=
  if c == '\x00' then ['\\', '0']
  else if c == '\t' then ['\\', 't']
  else if c == '\n' then ['\\', 'n']
  else if c == '\r' then ['\\', 'r']
  else if c == '"' || c == '\\' then ['\\', c]
  else if joinsPrevious c || !isPrintable c then codePointEscape c
  else [c]

def quoted (s : String) : String :=
  String.ofList ('"' :: s.toList.flatMap quotedChar ++ ['"'])

/-- A value that may be missing, by the text of the value. -/
def optionText : Option String → String
  | some s => s!"Some({s})"
  | none => "None"

end ScriptPress.Text
