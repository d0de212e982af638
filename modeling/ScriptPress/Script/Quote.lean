/-!
# String literals on a line

A one-character-at-a-time scanner that knows whether the next character stands inside a string
literal. A literal begins at `'` or `"` and ends at the same character; inside it a backslash takes
the next character along. Repair and diagnosis share the scanner, so both have one notion of what
is text and what is code.

## Main definitions

* `QuoteState` — outside every literal, or inside one.
* `QuoteState.step`, `scanQuotes` — the scanner.
* `openQuote?` — the quote character of the literal that a line leaves open.
-/

namespace ScriptPress.Script

/-- Where the scanner stands: outside every literal, or inside one that `mark` ends, where
`escaped` says that a backslash has just taken the next character along. -/
inductive QuoteState where
  | outside
  | inside (mark : Char) (escaped : Bool)
  deriving DecidableEq, Repr

def isQuote (c : Char) : Bool := c == '\'' || c == '"'

namespace QuoteState

def step : QuoteState → Char → QuoteState
  | outside, c => if isQuote c then inside c false else outside
  | inside mark true, _ => inside mark false
  | inside mark false, c =>
    if c == '\\' then inside mark true
    else if c == mark then outside
    else inside mark false

def mark? : QuoteState → Option Char
  | outside => none
  | inside mark _ => some mark

@[simp] theorem mark?_outside : outside.mark? = none := rfl

@[simp] theorem mark?_inside (mark : Char) (escaped : Bool) :
    (inside mark escaped).mark? = some mark := rfl

theorem mark?_eq_none_iff {q : QuoteState} : q.mark? = none ↔ q = outside := by
  cases q <;> simp

end QuoteState

def scanQuotes (q : QuoteState) (s : List Char) : QuoteState := s.foldl QuoteState.step q

@[simp] theorem scanQuotes_nil (q : QuoteState) : scanQuotes q [] = q := rfl

@[simp] theorem scanQuotes_cons (q : QuoteState) (c : Char) (s : List Char) :
    scanQuotes q (c :: s) = scanQuotes (q.step c) s := rfl

@[simp] theorem scanQuotes_append (q : QuoteState) (s t : List Char) :
    scanQuotes q (s ++ t) = scanQuotes (scanQuotes q s) t := List.foldl_append

/-- The quote character of the literal that is open at the end of the line. -/
def openQuote? (s : List Char) : Option Char := (scanQuotes .outside s).mark?

end ScriptPress.Script
