import ScriptPress.Json.Basic

/-!
# Writing JSON

The text of a value, on one line without blanks or indented by two blanks a level.

## Main definitions

* `Json.quote` — a string literal; only the quote, the backslash and control characters are escaped.
* `Json.compact` — the text without blanks.
* `Json.prettyText` — the indented text.
-/

namespace ScriptPress

namespace Json

def hexDigit (n : Nat) : Char := (Nat.digitChar n)

def quoteChar (c : Char) : List Char :=
  if c = '"' then ['\\', '"']
  else if c = '\\' then ['\\', '\\']
  else if c = '\x08' then ['\\', 'b']
  else if c = '\t' then ['\\', 't']
  else if c = '\n' then ['\\', 'n']
  else if c = '\x0c' then ['\\', 'f']
  else if c = '\r' then ['\\', 'r']
  else if c.toNat < 0x20 then
    ['\\', 'u', '0', '0', hexDigit (c.toNat / 16), hexDigit (c.toNat % 16)]
  else [c]

def quote (s : String) : List Char := '"' :: s.toList.flatMap quoteChar ++ ['"']

def Number.text : Number → List Char
  | .natural n => Nat.toDigits 10 n
  | .decimal negative m e =>
    (if negative then ['-'] else []) ++ Nat.toDigits 10 m ++ 'e' :: (toString e).toList

def separated (separator : List Char) (parts : List (List Char)) : List Char :=
  List.intercalate separator parts

mutual

def compact : Json → List Char
  | null | brokenString => "null".toList
  | bool b => (toString b).toList
  | number n => n.text
  | string s => quote s
  | array items => '[' :: separated [','] (compactItems items) ++ [']']
  | object fields => '\x7b' :: separated [','] (compactFields fields) ++ ['\x7d']

def compactItems : List Json → List (List Char)
  | [] => []
  | j :: js => compact j :: compactItems js

def compactFields : List (String × Json) → List (List Char)
  | [] => []
  | (name, j) :: fields => (quote name ++ ':' :: compact j) :: compactFields fields

end

def newLine (level : Nat) : List Char := '\n' :: List.replicate (2 * level) ' '

/-- Parts between brackets, each on lines of its own. -/
def block (opening closing : Char) (level : Nat) (parts : List (List Char)) : List Char :=
  if parts.isEmpty then [opening, closing]
  else
    opening :: newLine (level + 1) ++ separated (',' :: newLine (level + 1)) parts ++
      newLine level ++ [closing]

mutual

/-- The text of a value at a level of indentation. -/
def indented (level : Nat) : Json → List Char
  | array items => block '[' ']' level (indentedItems (level + 1) items)
  | object fields => block '\x7b' '\x7d' level (indentedFields (level + 1) fields)
  | null => compact null
  | brokenString => compact brokenString
  | bool b => compact (bool b)
  | number n => compact (number n)
  | string s => compact (string s)

def indentedItems (level : Nat) : List Json → List (List Char)
  | [] => []
  | j :: js => indented level j :: indentedItems level js

def indentedFields (level : Nat) : List (String × Json) → List (List Char)
  | [] => []
  | (name, j) :: fields =>
    (quote name ++ ": ".toList ++ indented level j) :: indentedFields level fields

end

def text (j : Json) : String := String.ofList (compact j)

def prettyText (j : Json) : String := String.ofList (indented 0 j)

end Json

end ScriptPress
