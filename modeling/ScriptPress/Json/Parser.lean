import ScriptPress.Json.Basic
import ScriptPress.Text.Numeral
import ScriptPress.Text.Piece

/-!
# Reading JSON

The value that a text is written for. Blanks may stand around every part; nothing else may follow
the value.

## Main definitions

* `Json.parse?` — the value of a text.
-/

namespace ScriptPress

namespace Json

open Text

/-- A reader takes a beginning off a text. -/
abbrev Reader (α : Type) := List Char → Option (α × List Char)

/-- Whether a character may stand between the parts of a value. -/
def isSpace (c : Char) : Bool := c == ' ' || c == '\t' || c == '\n' || c == '\r'

def skipSpace (s : List Char) : List Char := s.dropWhile isSpace

/-! ## Strings -/

def hexValue? (c : Char) : Option Nat :=
  if '0' ≤ c ∧ c ≤ '9' then some (c.toNat - '0'.toNat)
  else if 'a' ≤ c ∧ c ≤ 'f' then some (c.toNat - 'a'.toNat + 10)
  else if 'A' ≤ c ∧ c ≤ 'F' then some (c.toNat - 'A'.toNat + 10)
  else none

def hex4? (a b c d : Char) : Option Nat := do
  return (((← hexValue? a) * 16 + (← hexValue? b)) * 16 + (← hexValue? c)) * 16 + (← hexValue? d)

/-- What a backslash and a character stand for. -/
def shortEscape? (c : Char) : Option Char :=
  if c = '"' ∨ c = '\\' ∨ c = '/' then some c
  else if c = 'b' then some '\x08'
  else if c = 'f' then some '\x0c'
  else if c = 'n' then some '\n'
  else if c = 'r' then some '\r'
  else if c = 't' then some '\t'
  else none

/-- One unit of a string literal. -/
inductive Unit16 where
  | char (c : Char)
  /-- The first or second half of a surrogate pair. -/
  | half (n : Nat)
  deriving DecidableEq, Repr

/-- The unit of a code of four hexadecimal digits. -/
def Unit16.ofCode (n : Nat) : Unit16 :=
  if 0xD800 ≤ n ∧ n ≤ 0xDFFF then half n else char (Char.ofNat n)

/-- The units of a string literal up to its closing quote. -/
def stringUnits : Reader (List Unit16)
  | [] => none
  | '"' :: s => some ([], s)
  | '\\' :: 'u' :: a :: b :: c :: d :: s => do
    let n ← hex4? a b c d
    let (units, s) ← stringUnits s
    return (.ofCode n :: units, s)
  | '\\' :: c :: s => do
    let c ← shortEscape? c
    let (units, s) ← stringUnits s
    return (.char c :: units, s)
  | c :: s =>
    if c = '\\' ∨ c.toNat < 0x20 then none
    else do
      let (units, s) ← stringUnits s
      return (.char c :: units, s)

/-- The text of the units, if the halves pair up. -/
def joinUnits? : List Unit16 → Option (List Char)
  | [] => some []
  | .char c :: units => (joinUnits? units).map (c :: ·)
  | .half high :: .half low :: units =>
    if high ≤ 0xDBFF ∧ 0xDC00 ≤ low then
      (joinUnits? units).map (Char.ofNat (0x10000 + (high - 0xD800) * 0x400 + (low - 0xDC00)) :: ·)
    else none
  | .half _ :: _ => none

/-- The text of a string literal behind its opening quote; `none` in it stands for a literal that is
no text. -/
def stringRest : Reader (Option String) := fun s => do
  let (units, s) ← stringUnits s
  return ((joinUnits? units).map String.ofList, s)

/-! ## Numbers -/

def fraction : Reader (List Char)
  | '.' :: s => digitRun? s
  | s => some ([], s)

/-- The exponent behind its letter, or none. -/
def exponent? : Reader (Option Int)
  | c :: s =>
    if c = 'e' ∨ c = 'E' then
      let (negative, s) :=
        match s with
        | '+' :: s => (false, s)
        | '-' :: s => (true, s)
        | s => (false, s)
      (leadingNumber? s).map fun (n, s) => (some (if negative then -n else n), s)
    else some (none, c :: s)
  | [] => some (none, [])

/-- A number without a sign; a leading zero stands alone. -/
def unsignedNumber (negative : Bool) : Reader Number := fun s => do
  let (whole, s) ← digitRun? s
  guard (whole.head? != some '0' || whole.length == 1)
  let (places, s) ← fraction s
  let (exponent, s) ← exponent? s
  if !negative && places.isEmpty && exponent.isNone then
    return (.natural (Nat.ofDigitChars 10 whole 0), s)
  else
    return (.decimal negative (Nat.ofDigitChars 10 (whole ++ places) 0)
      (exponent.getD 0 - places.length), s)

def numberRest : Reader Number
  | '-' :: s => unsignedNumber true s
  | s => unsignedNumber false s

/-! ## Values -/

/-- Items up to a closing character, with commas between them; at most `fuel` of them. -/
def itemsRest {α : Type} (item : Reader α) (closing : Char) : (fuel : Nat) → Reader (List α)
  | 0, _ => none
  | fuel + 1, s => do
    let (a, s) ← item s
    match skipSpace s with
    | c :: s =>
      if c = ',' then
        let (as, s) ← itemsRest item closing fuel s
        return (a :: as, s)
      else if c = closing then return ([a], s)
      else none
    | [] => none

/-- Items up to a closing character, possibly none. -/
def items {α : Type} (item : Reader α) (closing : Char) : Reader (List α) := fun s =>
  match skipSpace s with
  | c :: r => if c = closing then some ([], r) else itemsRest item closing s.length s
  | [] => none

def field (value : Reader Json) : Reader (String × Json) := fun s => do
  let s ← startsWith? ['"'] (skipSpace s)
  let (name, s) ← stringRest s
  let name ← name
  let s ← startsWith? [':'] (skipSpace s)
  let (j, s) ← value s
  return ((name, j), s)

/-- A value of at most `depth` levels. -/
def value : (depth : Nat) → Reader Json
  | 0, _ => none
  | depth + 1, s =>
    match skipSpace s with
    | '"' :: s => (stringRest s).map fun (t, s) => (t.elim brokenString string, s)
    | '[' :: s => (items (value depth) ']' s).map fun (js, s) => (array js, s)
    | '\x7b' :: s => (items (field (value depth)) '\x7d' s).map fun (fs, s) => (object fs, s)
    | 'n' :: s => (startsWith? "ull".toList s).map fun s => (null, s)
    | 't' :: s => (startsWith? "rue".toList s).map fun s => (bool true, s)
    | 'f' :: s => (startsWith? "alse".toList s).map fun s => (bool false, s)
    | s => (numberRest s).map fun (n, s) => (number n, s)

def parse? (s : List Char) : Option Json := do
  let (j, rest) ← value (s.length + 1) s
  if (skipSpace rest).isEmpty then some j else none

end Json

end ScriptPress
