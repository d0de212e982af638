/-!
# Code point ranges

A property of characters given by the closed ranges of code points that have it, as the Unicode
character database lists them.

## Main definitions

* `inRanges` — membership of a character in a list of closed ranges.
-/

namespace ScriptPress.Text

/-- Whether the code point of `c` lies in one of the closed ranges. -/
def inRanges (ranges : List (Nat × Nat)) (c : Char) : Bool :=
  ranges.any fun r => r.1 ≤ c.toNat && c.toNat ≤ r.2

theorem inRanges_iff {ranges : List (Nat × Nat)} {c : Char} :
    inRanges ranges c = true ↔ ∃ r ∈ ranges, r.1 ≤ c.toNat ∧ c.toNat ≤ r.2 := by
  simp [inRanges]

end ScriptPress.Text
