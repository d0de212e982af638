import ScriptPress.Script.Quote

/-!
# Open delimiters

Which of `(`, `[` and `{` a line leaves open. Delimiters inside string literals do not count, and a
closing one that does not fit the innermost open one is passed over.

## Main definitions

* `Nesting` — the scanner's state: the quotes, and the closers still owed, innermost first.
* `Nesting.step`, `scanNesting` — the scanner.
* `closers` — the closing delimiters that a line still needs.
-/

namespace ScriptPress.Script

def closerOf? (c : Char) : Option Char :=
  if c = '(' then some ')' else if c = '[' then some ']' else if c = '{' then some '}' else none

/-- The state of the delimiter scanner. `owed` are the closers of what is open, innermost first. -/
structure Nesting where
  quote : QuoteState
  owed : List Char
  deriving DecidableEq, Repr

namespace Nesting

def start : Nesting := ⟨.outside, []⟩

/-- The closers that are owed behind the character `c` of the code. -/
def owedAfter (owed : List Char) (c : Char) : List Char :=
  match closerOf? c with
  | some closer => closer :: owed
  | none => if owed.head? = some c then owed.tail else owed

def step (n : Nesting) (c : Char) : Nesting where
  quote := n.quote.step c
  owed := if n.quote = .outside then owedAfter n.owed c else n.owed

end Nesting

def scanNesting (n : Nesting) (s : List Char) : Nesting := s.foldl Nesting.step n

/-- The closing delimiters that the line still needs, in the order in which they belong behind
it. -/
def closers (s : List Char) : List Char := (scanNesting .start s).owed

@[simp] theorem scanNesting_append (n : Nesting) (s t : List Char) :
    scanNesting n (s ++ t) = scanNesting (scanNesting n s) t := List.foldl_append

/-- The delimiter scanner scans quotes as the quote scanner does. -/
@[simp] theorem quote_scanNesting (n : Nesting) (s : List Char) :
    (scanNesting n s).quote = scanQuotes n.quote s := by
  induction s generalizing n with
  | nil => rfl
  | cons c s ih => exact ih (n.step c)

end ScriptPress.Script
