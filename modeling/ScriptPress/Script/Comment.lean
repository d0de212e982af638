import ScriptPress.Script.Quote
import ScriptPress.Text.Blank

/-!
# Comments

A comment begins at the first `#` outside every string literal and runs to the end of the line. The
white space in front of it goes with it.

## Main definitions

* `cutAtHash` — the line in front of its comment sign, and from it on.
* `splitComment` — the code of a line, and its comment with the white space before it.
-/

namespace ScriptPress.Script

open Text

/-- What stands in front of the first `#` outside a literal, and what stands from it on. -/
def cutAtHash (q : QuoteState) : List Char → List Char × List Char
  | [] => ([], [])
  | c :: s =>
    if q = .outside ∧ c = '#' then ([], c :: s)
    else
      let cut := cutAtHash (q.step c) s
      (c :: cut.1, cut.2)

def splitComment (s : List Char) : List Char × List Char :=
  match cutAtHash .outside s with
  | (_, []) => (s, [])
  | (before, comment) => (trimEnd before, takeEndWhile isBlank before ++ comment)

/-- Cutting loses nothing. -/
@[simp] theorem cutAtHash_append (q : QuoteState) (s : List Char) :
    (cutAtHash q s).1 ++ (cutAtHash q s).2 = s := by
  induction s generalizing q with
  | nil => rfl
  | cons c s ih =>
    rw [cutAtHash]
    split
    · rfl
    · simp [ih]

/-- Code and comment make up the line. -/
@[simp] theorem splitComment_append (s : List Char) :
    (splitComment s).1 ++ (splitComment s).2 = s := by
  have h := cutAtHash_append .outside s
  rw [splitComment]
  split
  · simp
  · rename_i before comment _ e
    rw [e] at h
    rw [← h, ← List.append_assoc, trimEnd, dropEndWhile_append_takeEndWhile]

end ScriptPress.Script
