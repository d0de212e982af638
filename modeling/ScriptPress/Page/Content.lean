import ScriptPress.Page.Document

/-!
# Content streams

How drawn lines are written into the content stream of a page: per line a text object with the font,
the colour, the place and the string. Operators stand on lines of their own, each operand has a
blank behind it.

## Main definitions

* `escapeString` — a string between parentheses; backslashes, carriage returns and parentheses
  without a partner get a backslash.
* `Mark.operators`, `pageContent` — the text of a content stream.
-/

namespace ScriptPress.Page

/-- The string with its escapes, where `opened` parentheses in front of it wait for a partner, and
how many of these find one in it. -/
def escapeFrom (opened : Nat) : List Char → List Char × Nat
  | [] => ([], 0)
  | '(' :: s =>
    match escapeFrom (opened + 1) s with
    | (out, 0) => ('\\' :: '(' :: out, 0)
    | (out, closed + 1) => ('(' :: out, closed)
  | ')' :: s =>
    if opened = 0 then
      let (out, closed) := escapeFrom 0 s
      ('\\' :: ')' :: out, closed)
    else
      let (out, closed) := escapeFrom (opened - 1) s
      (')' :: out, closed + 1)
  | c :: s =>
    let (out, closed) := escapeFrom opened s
    if c = '\\' then ('\\' :: '\\' :: out, closed)
    else if c = '\r' then ('\\' :: 'r' :: out, closed)
    else (c :: out, closed)

def escapeString (s : List Char) : List Char := '(' :: (escapeFrom 0 s).1 ++ [')']

def operator (operands : List (List Char)) (name : String) : List Char :=
  operands.flatMap (· ++ [' ']) ++ name.toList

def number (n : Binary32) : List Char := n.toDecimal.toList

def component (byte : UInt8) : List Char := number (Binary32.ofNat byte.toNat / 255)

/-- The operator that sets the colour of texts. -/
def Color.fill (c : Color) : List Char :=
  operator [component c.red, component c.green, component c.blue] "rg"

def Mark.operators (m : Mark) : List (List Char) :=
  [operator [] "BT",
    operator ['/' :: m.family.resourceName.toList, number m.fontSize] "Tf",
    m.color.fill,
    operator [number m.x, number m.y] "Td",
    operator [escapeString m.text] "Tj",
    operator [] "ET"]

def pageContent (page : List Mark) : List Char :=
  List.intercalate ['\n'] (page.flatMap Mark.operators)

end ScriptPress.Page
