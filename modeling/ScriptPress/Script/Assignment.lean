import ScriptPress.Text.Piece

/-!
# Assignment signs

An `=` assigns where it is not part of a comparison, a walrus or an augmented operator. The rules
look at single characters and do not ask whether they stand inside a literal.

## Main definitions

* `assignments` — every way to cut a line at a plain assignment sign.
* `comparesValues` — the line holds a comparison sign.
-/

namespace ScriptPress.Script

open Text

/-- The characters that make an `=` behind them part of another sign. -/
def operatorChars : List Char := "=!<>:+-*/%&|^@".toList

/-- Whether the `=` between `before` and `rest` assigns. -/
def isPlainAssignment (before : Option Char) (rest : List Char) : Bool :=
  rest.head? != some '=' && before.all (· ∉ operatorChars)

/-- What stands before and behind each plain assignment sign of the text, from left to right;
`before` is the character in front of the text. -/
def assignmentsFrom (before : Option Char) : List Char → List (List Char × List Char)
  | [] => []
  | c :: s =>
    let later := (assignmentsFrom (some c) s).map fun cut => (c :: cut.1, cut.2)
    if c == '=' && isPlainAssignment before s then ([], s) :: later else later

/-- What stands before and behind each plain assignment sign of a line, from left to right. -/
def assignments (s : List Char) : List (List Char × List Char) := assignmentsFrom none s

def comparesValues (s : List Char) : Bool :=
  s.contains '<' || s.contains '>' || occursIn "==".toList s || occursIn "!=".toList s

/-- The cuts of a text are those at an `=` that assigns. -/
theorem mem_assignmentsFrom_iff {before : Option Char} {s l r : List Char} :
    (l, r) ∈ assignmentsFrom before s ↔
      s = l ++ '=' :: r ∧ isPlainAssignment (l.getLast?.or before) r = true := by
  induction s generalizing before l with
  | nil => simp [assignmentsFrom]
  | cons c s ih =>
    cases l with
    | nil =>
      have later : ([], r) ∉ (assignmentsFrom (some c) s).map fun cut => (c :: cut.1, cut.2) := by
        simp
      rw [assignmentsFrom]
      split <;> grind
    | cons d t =>
      have later : (d :: t, r) ∈ (assignmentsFrom (some c) s).map
          (fun cut => (c :: cut.1, cut.2)) ↔ c = d ∧ (t, r) ∈ assignmentsFrom (some c) s := by
        rw [List.mem_map]
        exact ⟨fun ⟨_, _, _⟩ => by grind, fun ⟨hc, hmem⟩ => ⟨(t, r), hmem, by rw [hc]⟩⟩
      have hmem : (d :: t, r) ∈ assignmentsFrom before (c :: s) ↔
          c = d ∧ (t, r) ∈ assignmentsFrom (some c) s := by
        rw [assignmentsFrom]
        split
        · rw [List.mem_cons, later, or_iff_right (by simp)]
        · exact later
      have hlast : (d :: t).getLast?.or before = t.getLast?.or (some d) := by
        rw [List.getLast?_cons]
        cases t.getLast? <;> rfl
      rw [hmem, ih, hlast, List.cons_append, List.cons.injEq, and_assoc]
      exact and_congr_right fun hc => by rw [hc]

/-- Every cut gives the line back with the sign put in again. -/
theorem eq_append_of_mem_assignments {before : Option Char} {s l r : List Char}
    (h : (l, r) ∈ assignmentsFrom before s) : s = l ++ '=' :: r :=
  (mem_assignmentsFrom_iff.1 h).1

/-- The `=` of a cut stands in front of no other one. -/
theorem head?_of_mem_assignments {before : Option Char} {s l r : List Char}
    (h : (l, r) ∈ assignmentsFrom before s) : r.head? ≠ some '=' := by
  have hplain := (mem_assignmentsFrom_iff.1 h).2
  rw [isPlainAssignment, Bool.and_eq_true, bne_iff_ne] at hplain
  exact hplain.1

end ScriptPress.Script
