import ScriptPress.Text.Piece

/-!
# Breaking a text into lines

The text of a cell is prepared first: line endings become line feeds and tabs four blanks. Then each
paragraph is broken greedily into lines of a given number of characters, after the last blank that
fits, or hard where a word is longer than a line. The blank at a soft break goes; indentation and
runs of blanks inside a line stay.

## Main definitions

* `prepare` — a text on plain lines without tabs.
* `softBreak?` — where a paragraph that does not fit may be broken at a blank.
* `wrapParagraph`, `wrap` — the lines.
-/

namespace ScriptPress.Page

open Text

/-- The text on plain lines without tabs. -/
def prepare : List Char → List Char
  | [] => []
  | '\r' :: '\n' :: s => '\n' :: prepare s
  | c :: s =>
    if c = '\r' then '\n' :: prepare s
    else if c = '\t' then ' ' :: ' ' :: ' ' :: ' ' :: prepare s
    else c :: prepare s

/-- The place of the last element that satisfies `p`. -/
def lastIndex? {α : Type} (p : α → Bool) : List α → Option Nat
  | [] => none
  | a :: l =>
    match lastIndex? p l with
    | some i => some (i + 1)
    | none => if p a then some 0 else none

theorem lastIndex?_lt {α : Type} {p : α → Bool} {l : List α} {i : Nat}
    (h : lastIndex? p l = some i) : i < l.length := by
  induction l generalizing i with
  | nil => simp [lastIndex?] at h
  | cons a l ih =>
    rw [lastIndex?] at h
    split at h
    · rename_i j hj
      have := ih hj
      simp_all
      omega
    · split at h <;> simp_all
      omega

/-- The last blank among the first `width + 1` characters, unless it is the very first one. -/
def softBreak? (width : Nat) (s : List Char) : Option Nat :=
  (lastIndex? (· == ' ') (s.take (width + 1))).filter (0 < ·)

/-- The lines of a paragraph at `width + 1` characters a line; an empty rest gives no line. -/
def wrapRest (width : Nat) (s : List Char) : List (List Char) :=
  if s = [] then []
  else if s.length ≤ width + 1 then [s]
  else
    match softBreak? (width + 1) s with
    | some p => s.take p :: wrapRest width (s.drop (p + 1))
    | none => s.take (width + 1) :: wrapRest width (s.drop (width + 1))
  termination_by s.length
  decreasing_by all_goals simp only [List.length_drop]; omega

/-- The lines of a paragraph at `width` characters a line, at least one character. -/
def wrapParagraph (width : Nat) (s : List Char) : List (List Char) :=
  if s = [] then [[]] else wrapRest (width - 1) s

/-- The lines of a text at `width` characters a line, at least one character. -/
def wrap (width : Nat) (s : List Char) : List (List Char) :=
  (pieces (· == '\n') s).flatMap (wrapParagraph width)

end ScriptPress.Page
