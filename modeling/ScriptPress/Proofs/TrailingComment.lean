import ScriptPress.Diagnosis.Basic
import ScriptPress.Proofs.RepairScan

/-!
# Comments behind a line

A comment changes nothing about the line in front of it: the repair of the line is the same, with
the comment behind it as before, and the same cause of a compile failure shows.

## Main statements

* `findInLine?_append` — the cause that shows on a line with a comment.
* `comment_transparent` — repair and diagnosis with and without the comment.
-/

namespace ScriptPress

open Text Script Repair

/-! ## Diagnoses -/

/-- A comment shows no cause and hides none. -/
theorem Diagnosis.findInLine?_append {code comment : List Char} (h : IsCut code comment) :
    findInLine? (code ++ comment) = findInLine? code := by
  obtain ⟨r, hpass⟩ := h.exists_passes
  rw [findInLine?, findInLine?, h.splitComment_eq, hpass.splitComment_eq]

/-- A compile failure is explained by the line it names; one that the script does not have says as
much as an empty one. -/
theorem Diagnosis.findCompileFailure_line (script : String) (n : UInt64)
    (failure : CompileFailure) :
    findCompileFailure script { failure with line := some n } =
      (findInLine? ((lineAt? script.toList n.toNat).getD [])).getD
        (findInMessage failure.message.toList failure.kind) := by
  have hempty : findInLine? [] = none := by decide
  cases e : lineAt? script.toList n.toNat with
  | none => simp [findCompileFailure, e, hempty]
  | some line => simp [findCompileFailure, e]

theorem Diagnosis.explanation_ofCompileFailure (script : String) (failure : CompileFailure) :
    (ofCompileFailure script failure).explanation =
      (findCompileFailure script failure).explanation := by
  unfold ofCompileFailure
  cases failure.kind <;> rfl

theorem Diagnosis.suggestion_ofCompileFailure (script : String) (failure : CompileFailure) :
    (ofCompileFailure script failure).suggestion =
      (findCompileFailure script failure).suggestion := by
  unfold ofCompileFailure
  cases failure.kind <;> rfl

/-! ## Lines with a comment -/

/-- A line that ends in a visible character outside every literal, with each `#` on it inside one,
is repaired alike with and without a comment behind it; the comment is cut off the repaired line as
it was off the line; and a compile failure on the line is explained alike in both cases, wherever
the line stands in whatever script. -/
theorem comment_transparent {line gap text : List Char}
    (solid : ∀ c ∈ line.getLast?, isBlank c = false)
    (inside : ∀ a b, line = a ++ '#' :: b → openQuote? a ≠ none)
    (closed : openQuote? line = none) (blank : ∀ c ∈ gap, isBlank c = true) :
    repairLine (line ++ gap ++ '#' :: text) = repairLine line ++ gap ++ '#' :: text ∧
      splitComment (line ++ gap ++ '#' :: text) = (line, gap ++ '#' :: text) ∧
      splitComment (repairLine (line ++ gap ++ '#' :: text)) =
        (repairLine line, gap ++ '#' :: text) ∧
      ∀ (script script' : String) (n n' : UInt64) (failure : CompileFailure),
        lineAt? script.toList n.toNat = some (line ++ gap ++ '#' :: text) →
        (lineAt? script'.toList n'.toNat).getD [] = line →
        (Diagnosis.ofCompileFailure script { failure with line := some n }).explanation =
            (Diagnosis.ofCompileFailure script' { failure with line := some n' }).explanation ∧
          (Diagnosis.ofCompileFailure script { failure with line := some n }).suggestion =
            (Diagnosis.ofCompileFailure script' { failure with line := some n' }).suggestion := by
  have hscan : scanQuotes .outside line = .outside := QuoteState.mark?_eq_none_iff.1 closed
  obtain ⟨r, hpass⟩ := (isCut_splitComment line).exists_passes
  rw [splitComment_eq_self_iff.2 inside] at hpass
  obtain rfl : r = .outside := hpass.scanQuotes_eq.symm.trans hscan
  have hcut : IsCut line (gap ++ '#' :: text) := .commented hpass solid blank
  rw [List.append_assoc, List.append_assoc]
  have hrepair := repairLine_append hcut
  refine ⟨hrepair, hcut.splitComment_eq, ?_, ?_⟩
  · rw [hrepair, (isCut_repairLine hcut).splitComment_eq]
  · intro script script' n n' failure hline hline'
    have same : Diagnosis.findCompileFailure script { failure with line := some n } =
        Diagnosis.findCompileFailure script' { failure with line := some n' } := by
      rw [Diagnosis.findCompileFailure_line, Diagnosis.findCompileFailure_line, hline, hline',
        Option.getD_some, Diagnosis.findInLine?_append hcut]
    rw [Diagnosis.explanation_ofCompileFailure, Diagnosis.explanation_ofCompileFailure,
      Diagnosis.suggestion_ofCompileFailure, Diagnosis.suggestion_ofCompileFailure, same]
    exact ⟨rfl, rfl⟩

/-- A condition with a number sign in a literal, and neither its parenthesis closed nor its colon
there. -/
def openCondition : List Char := "if x == 'a#\\'' and (y".toList

def commentedScript : String := "x = 1\nif x == 'a#\\'' and (y \t# it's (open\n    pass"

theorem openCondition_transparent :
    repairLine (openCondition ++ " \t".toList ++ '#' :: " it's (open".toList) =
        repairLine openCondition ++ " \t".toList ++ '#' :: " it's (open".toList ∧
      (Diagnosis.ofCompileFailure commentedScript
          ⟨.syntaxError, "invalid syntax", some 2⟩).suggestion =
        (Diagnosis.ofCompileFailure "if x == 'a#\\'' and (y"
          ⟨.syntaxError, "invalid syntax", some 1⟩).suggestion := by
  have last : openCondition.getLast? = some 'y' := by decide +kernel
  have main := @comment_transparent openCondition " \t".toList " it's (open".toList
    (by simp [last, isBlank]) (splitComment_eq_self_iff.1 (by decide +kernel))
    (by decide +kernel) (by simp [isBlank])
  exact ⟨main.1, (main.2.2.2 commentedScript "if x == 'a#\\'' and (y" 2 1
    ⟨.syntaxError, "invalid syntax", none⟩ (by decide +kernel) (by decide +kernel)).2⟩

end ScriptPress
