import ScriptPress.Text.Blank
import ScriptPress.Text.Digit
import ScriptPress.Text.Piece
import ScriptPress.Text.Word

/-!
# Font sizes in a script

The calls that choose a font size, and putting another size into them. Four kinds of call are
known, told apart by name and by where the size stands:

* `set_font_size(12)`
* `set_font("Arial", size=12)`
* `set_font("Arial", "B", 12)`
* `setFont("Helvetica", 12)`

The name has to begin a word. A size is a run of decimal digits; only that run changes, and for the
first kind the white space in front of it goes.

## Main definitions

* `SizeCall` — a call up to its size, cut into what stays and what goes.
* `sizeOnly`, `sizeKeyword`, `sizeLast`, `sizeSecond` — recognisers of the four kinds.
* `resizeCalls` — the script with another size in every call of one kind.
* `resizeFonts` — all four kinds, one after the other.
-/

namespace ScriptPress.Source

open Text

/-- The beginning of a call up to and around its size. -/
structure SizeCall where
  /-- What stays in front of the size. -/
  lead : List Char
  /-- White space that goes with the old size. -/
  gap : List Char
  /-- The size as it stands. -/
  digits : List Char
  /-- What stays behind the size. -/
  tail : List Char
  deriving DecidableEq, Repr

namespace SizeCall

/-- What the call covers of the script. -/
def text (call : SizeCall) : List Char := call.lead ++ call.gap ++ call.digits ++ call.tail

def withSize (call : SizeCall) (size : List Char) : List Char := call.lead ++ size ++ call.tail

end SizeCall

/-! ## Parts of a call -/

def spanBlank (s : List Char) : List Char × List Char := (s.takeWhile isBlank, s.dropWhile isBlank)

def digits? (s : List Char) : Option (List Char) :=
  let digits := s.takeWhile isDigit
  if digits.isEmpty then none else some digits

/-- The called name with its opening parenthesis, and the arguments. -/
def callOf? (name : List Char) (s : List Char) : Option (List Char × List Char) := do
  let rest ← startsWith? name s
  let (gap, rest) := spanBlank rest
  let args ← startsWith? ['('] rest
  return (name ++ gap ++ ['('], args)

/-! ## The four kinds -/

/-- Recognises `set_font_size(12`. -/
def sizeOnly (s : List Char) : Option SizeCall := do
  let (lead, args) ← callOf? "set_font_size".toList s
  let (gap, rest) := spanBlank args
  let digits ← digits? rest
  return ⟨lead, gap, digits, []⟩

/-- The first `size=12` among the arguments: what stands in front of its digits, and they. -/
def keywordArgument? : List Char → Option (List Char × List Char)
  | [] => none
  | c :: s =>
    let here := do
      let rest ← startsWith? "size".toList (c :: s)
      let (gap, rest) := spanBlank rest
      let rest ← startsWith? ['='] rest
      let (gap', rest) := spanBlank rest
      let digits ← digits? rest
      return ("size".toList ++ gap ++ ['='] ++ gap', digits)
    match here with
    | some found => some found
    | none =>
      if c == ')' then none else (keywordArgument? s).map fun found => (c :: found.1, found.2)

/-- Recognises `set_font(` up to its first `size=12` in front of a closing parenthesis. -/
def sizeKeyword (s : List Char) : Option SizeCall := do
  let (lead, args) ← callOf? "set_font".toList s
  let (front, digits) ← keywordArgument? args
  return ⟨lead ++ front, [], digits, []⟩

/-- Recognises `set_font("Arial", 12)`: plain arguments, the last of them a number. -/
def sizeLast (s : List Char) : Option SizeCall := do
  let (lead, args) ← callOf? "set_font".toList s
  let plain := args.takeWhile fun c => c != '(' && c != ')' && c != '='
  guard ((args.drop plain.length).head? == some ')')
  let front := dropEndWhile (· != ',') plain
  guard (2 ≤ front.length)
  let (gap, rest) := spanBlank (takeEndWhile (· != ',') plain)
  let digits ← digits? rest
  let behind := rest.drop digits.length
  guard (behind.all isBlank)
  return ⟨lead ++ front ++ gap, [], digits, behind ++ [')']⟩

/-- Recognises `setFont("Helvetica", 12`. -/
def sizeSecond (s : List Char) : Option SizeCall := do
  let (lead, args) ← callOf? "setFont".toList s
  let face := args.takeWhile (· != ',')
  guard !face.isEmpty
  let rest ← startsWith? [','] (args.drop face.length)
  let (gap, rest) := spanBlank rest
  let digits ← digits? rest
  return ⟨lead ++ face ++ [','] ++ gap, [], digits, []⟩

/-! ## Another size -/

/-- The script with another size in each call, found from left to right: `afterWord` says that a
word character stands in front, and `skip` characters belong to the call found last. -/
def resizeCallsFrom (find : List Char → Option SizeCall) (size : List Char) :
    (afterWord : Bool) → (skip : Nat) → List Char → List Char
  | _, _, [] => []
  | _, skip + 1, c :: s => resizeCallsFrom find size (isWord c) skip s
  | afterWord, 0, c :: s =>
    match if afterWord then none else find (c :: s) with
    | some call =>
      call.withSize size ++ resizeCallsFrom find size (isWord c) (call.text.length - 1) s
    | none => c :: resizeCallsFrom find size (isWord c) 0 s

def resizeCalls (find : List Char → Option SizeCall) (size s : List Char) : List Char :=
  resizeCallsFrom find size false 0 s

def resizeFonts (n : Nat) (s : List Char) : List Char :=
  let size := Nat.toDigits 10 n
  resizeCalls sizeSecond size (resizeCalls sizeLast size
    (resizeCalls sizeKeyword size (resizeCalls sizeOnly size s)))

end ScriptPress.Source
