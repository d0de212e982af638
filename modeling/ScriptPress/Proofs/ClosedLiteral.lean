import ScriptPress.Proofs.RepairScan

/-!
# Literals of a repaired line

A repair closes the literal that a line leaves open. The closing mark fails in one case: a backslash
at the end of the code takes it along, and no rule has put a character between the two.

## Main statements

* `repairStatement_eq_self_iff` — which statements that end in such a backslash are left alone.
* `literal_closed_iff` — when a repaired line leaves no literal open.
-/

namespace ScriptPress.Repair

open Text Script QuoteState

variable {code : List Char} {r : QuoteState}

/-- Of the rules, only that for a header without its colon and that for bare values apply to a
statement that ends in a backslash which reaches on. -/
theorem repairStatement_eq_self_iff (h : Passes .outside code r) (hnext : r.takesNext = true) :
    repairStatement code = code ↔ lacksColon code = false ∧ bareTuple? code = none := by
  have last : ∀ c, isPlain c = true → code.getLast? ≠ some c := by
    intro c hc hlast
    simp [takesNext_eq_false h hlast hc] at hnext
  have repaired := repairStatement_cases code
  generalize repairStatement code = code' at repaired ⊢
  cases repaired with
  | colon hcolon => simp [hcolon]
  | comparison hcolon hcondition =>
    exact absurd (getLast?_of_conditionAssignment? hcolon hcondition) (last ':' (by decide))
  | nothing _ _ hnothing =>
    exact absurd (getLast?_of_assignsNothing hnothing) (last '=' (by decide))
  | list _ _ htuple =>
    refine iff_of_false (fun e => last ']' (by decide) ?_) (by simp [htuple])
    rw [← e, List.getLast?_append]
    rfl
  | kept hcolon _ htuple => simp [hcolon, htuple]

/-- The code of a repaired line leaves no literal open, unless a backslash at its end takes the
closing mark along: white space aside, the code of the line ends in it inside a literal, and the
line is neither a header without its colon nor an assignment of bare values. -/
theorem literal_closed_iff (line : List Char) :
    openQuote? (splitComment (repairLine line)).1 = none ↔
      ((scanQuotes .outside (trim (splitComment line).1)).takesNext = true →
        lacksColon (trim (splitComment line).1) = true ∨
          (bareTuple? (trim (splitComment line).1)).isSome = true) := by
  obtain ⟨p, hcode⟩ := (isCut_splitComment line).exists_passes
  obtain ⟨r, htrim, -⟩ := hcode.trim isProper_outside rfl
  rw [splitComment_repairLine, openQuote?, (passes_repairLine htrim hcode).scanQuotes_eq,
    mark?_eq_none_iff, close_eq_outside_iff, htrim.scanQuotes_eq]
  by_cases hnext : r.takesNext = true
  · have kept := repairStatement_eq_self_iff htrim hnext
    by_cases hself : repairStatement (trim (splitComment line).1) = trim (splitComment line).1
    · obtain ⟨hcolon, htuple⟩ := kept.1 hself
      simp [hself, hnext, hcolon, htuple]
    · rw [if_neg hself, takesNext_settle]
      have hfires := mt kept.2 hself
      rw [not_and_or, Bool.not_eq_false, ← Ne, Option.ne_none_iff_isSome] at hfires
      simp [hfires]
  · rw [Bool.not_eq_true] at hnext
    simp [settle_of_takesNext hnext, hnext]

/-- The mark that should close this literal becomes a part of it. -/
theorem escaped_mark_left_open :
    repairLine "x = 'a\\".toList = "x = 'a\\'".toList ∧
      openQuote? (splitComment (repairLine "x = 'a\\".toList)).1 = some '\'' := by
  decide +kernel

end ScriptPress.Repair
