import ScriptPress.Text.Blank
import ScriptPress.Text.Digit
import ScriptPress.Text.Word

/-!
# Kinds of characters

White space, digits and word characters are told apart by three tables. A digit is a word character,
and white space is neither.

## Main statements

* `isWord_of_isBlank`, `isWord_of_isDigit`, `isDigit_of_isBlank` — how the tables agree.
-/

namespace ScriptPress.Text

variable {c : Char}

/-- White space is no part of a word. -/
theorem isWord_of_isBlank (h : isBlank c = true) : isWord c = false := by
  have blanks : ∀ n ∈ List.range' 9 5 ++ [0x20, 0x85, 0xA0, 0x1680] ++ List.range' 0x2000 11 ++
      [0x2028, 0x2029, 0x202F, 0x205F, 0x3000], isWord (Char.ofNat n) = false := by
    decide +kernel
  have hmem : c.toNat ∈ List.range' 9 5 ++ [0x20, 0x85, 0xA0, 0x1680] ++ List.range' 0x2000 11 ++
      [0x2028, 0x2029, 0x202F, 0x205F, 0x3000] := by
    simp only [isBlank, Bool.or_eq_true, Bool.and_eq_true, decide_eq_true_eq, beq_iff_eq] at h
    simp only [List.mem_append, List.mem_range'_1, List.mem_cons, List.not_mem_nil, or_false]
    omega
  have hc := blanks c.toNat hmem
  rwa [Char.ofNat_toNat] at hc

/-- A digit may stand in a word. -/
theorem isWord_of_isDigit (h : isDigit c = true) : isWord c = true := by
  have covered : ∀ r ∈ digitRanges, ∃ w ∈ wordRanges, w.1 ≤ r.1 ∧ r.2 ≤ w.2 := by
    -- `Nat.ble` is computed on literals; the instance that decides `≤` would be unfolded instead.
    have hall : (digitRanges.all fun r => wordRanges.any fun w =>
        w.1.ble r.1 && r.2.ble w.2) = true := by decide +kernel
    simpa using hall
  unfold isDigit at h
  unfold isWord
  split at h
  · have hdigit : c.isDigit = true := by
      simp only [Bool.and_eq_true, decide_eq_true_eq] at h
      simp only [Char.isDigit, Bool.and_eq_true, decide_eq_true_eq]
      exact h
    simp [*, Char.isAlphanum]
  · rw [if_neg ‹_›]
    obtain ⟨r, hr, hlow, hhigh⟩ := inRanges_iff.1 h
    obtain ⟨w, hw, hlow', hhigh'⟩ := covered r hr
    exact inRanges_iff.2 ⟨w, hw, by omega, by omega⟩

theorem isDigit_of_charIsDigit (h : c.isDigit = true) : isDigit c = true := by
  simp only [Char.isDigit, Bool.and_eq_true, decide_eq_true_eq, UInt32.le_iff_toNat_le] at h
  have hc : c.toNat < 128 := Nat.lt_of_le_of_lt h.2 (by decide)
  simp only [isDigit, hc, if_true, Bool.and_eq_true, decide_eq_true_eq]
  exact h

theorem isDigit_of_isBlank (h : isBlank c = true) : isDigit c = false := by
  rw [Bool.eq_false_iff]
  intro hdigit
  have hword := isWord_of_isDigit hdigit
  rw [isWord_of_isBlank h] at hword
  contradiction

end ScriptPress.Text
