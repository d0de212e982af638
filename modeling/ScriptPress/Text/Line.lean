import ScriptPress.Text.Blank

/-!
# Lines

A text as a sequence of lines, with and without their endings. A line ends behind a line feed; the
last line may lack it. A carriage return in front of the line feed belongs to the ending, any other
one to the line.

## Main definitions

* `rawLines` — the lines with their endings; joined they are the text.
* `lineContent` — a raw line without its ending.
* `lines` — the lines without their endings.
* `lineAt?` — a line by its number, counted from 1.
-/

namespace ScriptPress.Text

/-- The lines of a text, each with its own ending. -/
def rawLines : List Char → List (List Char)
  | [] => []
  | c :: s =>
    if c == '\n' then ['\n'] :: rawLines s
    else
      match rawLines s with
      | [] => [[c]]
      | l :: ls => (c :: l) :: ls

/-- A raw line without its line feed and one carriage return in front of it. -/
def lineContent : List Char → List Char
  | [] => []
  | ['\n'] => []
  | ['\r', '\n'] => []
  | c :: s => c :: lineContent s

def lines (s : List Char) : List (List Char) := (rawLines s).map lineContent

/-- The element with number `n`, counted from 1; number 0 names none. -/
def numbered? {α : Type} (l : List α) : (n : Nat) → Option α
  | 0 => none
  | n + 1 => l[n]?

def lineAt? (s : List Char) (n : Nat) : Option (List Char) := numbered? (lines s) n

/-- Cutting a text into raw lines loses nothing. -/
@[simp] theorem flatten_rawLines (s : List Char) : (rawLines s).flatten = s := by
  induction s with
  | nil => rfl
  | cons c s ih =>
    rw [rawLines]
    split
    · simp_all
    · split <;> simp_all

@[simp] theorem length_lines (s : List Char) : (lines s).length = (rawLines s).length := by
  simp [lines]

end ScriptPress.Text
