import ScriptPress.Proofs.QuoteScan

/-!
# Repairs under the quote scanner

Every rule and every closing step takes the scanner from the beginning of the code to where it
stood before, except that a literal which is open is closed and that the reach of a backslash at
the end is over. No comment begins on the way, so a repaired line is cut where the line was: a
repair works on the code and carries the comment over.

## Main statements

* `passes_repairStatement`, `passes_closeQuote`, `passes_callPrint`, `passes_closeDelimiters` — the
  scanner behind each step.
* `passes_repairCode` — the scanner behind repaired code.
* `repairLine_append`, `splitComment_repairLine` — code and comment of a repaired line.
-/

namespace ScriptPress.Repair

open Text Script QuoteState

variable {code code' : List Char} {r : QuoteState}

/-! ## The rules -/

/-- A backslash that reaches on is the last character. -/
theorem takesNext_eq_false (h : Passes .outside code r) {c : Char}
    (hlast : code.getLast? = some c) (hc : isPlain c = true) : r.takesNext = false := by
  obtain ⟨front, rfl⟩ := List.getLast?_eq_some_iff.1 hlast
  obtain ⟨p, hp, hr⟩ := h.exists_of_append
  have hproper := hp.isProper isProper_outside
  rw [← hr.scanQuotes_eq, scanQuotes_of_isPlain hproper (by simpa using hc) (by simp),
    takesNext_settle]

/-- A condition begins a block. -/
theorem isSome_blockKeyword?_of_startsCondition (h : startsCondition code = true) :
    (blockKeyword? code).isSome = true := by
  have hword : firstWord code = "if".toList ∨ firstWord code = "elif".toList := by
    simpa [startsCondition] using h
  have hstart : trimStart code = code := by
    cases code with
    | nil => rfl
    | cons c s =>
      have hc : c = 'i' ∨ c = 'e' := by
        rw [firstWord, List.takeWhile_cons] at hword
        split at hword
        · rcases hword with e | e
          · exact .inl (List.cons.inj e).1
          · exact .inr (List.cons.inj e).1
        · simp at hword
      refine List.dropWhile_cons_of_neg ?_
      rcases hc with rfl | rfl <;> decide
  have hmem : firstWord code ∈ blockKeywords := by
    rcases hword with e | e <;> rw [e] <;> decide
  rw [blockKeyword?, hstart, if_pos hmem]
  rfl

/-- A condition that keeps its colon ends in it. -/
theorem getLast?_of_conditionAssignment? {cut : List Char × List Char}
    (hcolon : lacksColon code = false) (h : conditionAssignment? code = some cut) :
    code.getLast? = some ':' := by
  have hcondition : startsCondition code = true := by
    unfold conditionAssignment? at h
    grind
  simpa [lacksColon, isSome_blockKeyword?_of_startsCondition hcondition, endsWith] using hcolon

/-- An assignment of nothing ends in its sign. -/
theorem getLast?_of_assignsNothing (h : assignsNothing code = true) :
    code.getLast? = some '=' := by
  have skipped : ∀ s, skipSubscript s <:+ s := by
    intro s
    unfold skipSubscript
    split
    · rename_i inner
      split
      · rename_i _ rest e
        have hrest : rest <:+ inner.dropWhile (· != ']') := e ▸ List.suffix_cons _ _
        exact (hrest.trans (List.dropWhile_suffix _)).trans (List.suffix_cons _ _)
      · exact List.suffix_rfl
    · exact List.suffix_rfl
  cases code with
  | nil => simp [assignsNothing] at h
  | cons c s =>
    simp only [assignsNothing, Bool.and_eq_true, beq_iff_eq] at h
    have hname : s.dropWhile (fun d => isWord d || d == '.') <:+ s := List.dropWhile_suffix _
    have hsign : ['='] <:+ c :: s := by
      rw [← h.2]
      exact (((List.dropWhile_suffix _).trans (skipped _)).trans hname).trans (List.suffix_cons _ _)
    obtain ⟨front, hfront⟩ := hsign
    rw [← hfront, List.getLast?_append]
    rfl

/-- A rule that changes the statement ends the reach of a backslash; so does one that leaves it,
where there is none. -/
theorem passes_ite (h : Passes .outside code r) (h' : Passes .outside code' r.settle) :
    Passes .outside code' (if code' = code then r else r.settle) := by
  split
  · rename_i e
    exact e ▸ h
  · exact h'

theorem passes_repairStatement (h : Passes .outside code r) :
    Passes .outside (repairStatement code)
      (if repairStatement code = code then r else r.settle) := by
  have hproper := h.isProper isProper_outside
  have repaired := repairStatement_cases code
  generalize repairStatement code = code' at repaired ⊢
  cases repaired with
  | colon => exact passes_ite h (h.append (passes_of_isPlain hproper (by decide) (by decide)))
  | @comparison left right hcolon hcondition hcode =>
    -- The code ends in its colon, so no backslash reaches on behind it.
    have hsettle := settle_of_takesNext
      (takesNext_eq_false h (getLast?_of_conditionAssignment? hcolon hcondition) (by decide))
    refine passes_ite h ?_
    rw [hsettle]
    subst hcode
    obtain ⟨p, hleft, hrest⟩ := h.exists_of_append
    have hp := hleft.isProper isProper_outside
    cases hrest with
    | cons _ hright =>
      rw [step_of_isPlain hp (by decide)] at hright
      exact (hleft.append (passes_of_isPlain hp (by decide) (by decide))).append hright
  | nothing => exact passes_ite h (h.append (passes_of_isPlain hproper (by decide) (by decide)))
  | @list left right _ _ _ hcode =>
    refine passes_ite h ?_
    subst hcode
    obtain ⟨p, hleft, hrest⟩ := h.exists_of_append
    have hp := hleft.isProper isProper_outside
    obtain ⟨p₁, hfront, hsettle⟩ := hleft.trimEnd isProper_outside
    have hp₁ := hfront.isProper isProper_outside
    cases hrest with
    | cons _ hright =>
      -- No backslash reaches beyond the sign, so white space behind it counts for nothing.
      rw [step_of_isPlain hp (by decide)] at hright
      obtain ⟨p₂, hvalue, hend⟩ := hright.trim hp.settle (settle_settle p)
      have hp₂ := hvalue.isProper hp.settle
      have hsign : Passes p₁ " = [".toList p.settle :=
        hsettle ▸ passes_of_isPlain hp₁ (by decide) (by decide)
      have hclose : Passes p₂ "]".toList r.settle :=
        hend ▸ passes_of_isPlain hp₂ (by decide) (by decide)
      exact ((hfront.append hsign).append hvalue).append hclose
  | kept => simpa using h

/-! ## The closing steps -/

/-- The mark of an open literal closes it, unless a backslash takes the mark along. -/
theorem passes_closeQuote (h : Passes .outside code r) :
    Passes .outside (closeQuote code) r.close := by
  have hproper := h.isProper isProper_outside
  rw [closeQuote, openQuote?, h.scanQuotes_eq]
  refine h.append ?_
  cases r with
  | outside => exact .nil .outside
  | inside mark escaped =>
    have hmark : mark ≠ '\\' := by
      rintro rfl
      exact absurd (hproper '\\' rfl) (by decide)
    refine .cons (by simp) ?_
    cases escaped with
    | true => exact .nil _
    | false =>
      have hstep : (inside mark false).step mark = .outside := by simp [QuoteState.step, hmark]
      rw [hstep]
      exact .nil _

theorem passes_callPrint (h : Passes .outside code r) (hr : r.settle = r) :
    Passes .outside (callPrint code) r := by
  have repaired := callPrint_cases code
  generalize callPrint code = code' at repaired ⊢
  cases repaired with
  | @call gap value tail hcode hgap htail =>
    subst hcode
    have hrest := (h.of_plain_append isProper_outside rfl (by decide)).of_plain_append
      isProper_outside rfl (all_isPlain_of_isBlank hgap)
    obtain ⟨p, hvalue, hblank⟩ := hrest.exists_of_append
    have hp := hvalue.isProper isProper_outside
    have hsettle : p.settle = r := by
      rw [← hr, hblank.settle_eq hp (all_isPlain_of_isBlank htail)]
    have hclose : Passes p ")".toList r :=
      hsettle ▸ passes_of_isPlain hp (by decide) (by decide)
    exact ((passes_outside (by decide)).append hvalue).append hclose
  | kept => exact h

theorem all_isPlain_closers (s : List Char) : (closers s).all isPlain = true :=
  all_isPlain_of_closing fun _ => mem_closers

theorem passes_closeDelimiters (h : Passes .outside code r) (hr : r.settle = r) :
    Passes .outside (closeDelimiters code) r :=
  h.append (passes_self (h.isProper isProper_outside) hr (all_isPlain_closers code))

/-- Behind repaired code the scanner stands where the closing mark has taken it. -/
theorem passes_repairCode (h : Passes .outside (trimEnd code) r) :
    Passes .outside (repairCode code)
      (if repairStatement (trimEnd code) = trimEnd code then r else r.settle).close :=
  passes_closeDelimiters
    (passes_callPrint (passes_closeQuote (passes_repairStatement h)) (settle_close _))
    (settle_close _)

/-! ## Whole lines -/

@[simp] theorem repairCode_nil : repairCode [] = [] := by decide

theorem repairCode_trimStart (code : List Char) :
    repairCode (trimStart code) =
      closeDelimiters (callPrint (closeQuote (repairStatement (trim code)))) := rfl

/-- A line without a comment is repaired behind its indentation. -/
theorem repairLine_of_passes (h : Passes .outside code r) :
    repairLine code = code.takeWhile isBlank ++ repairCode (trimStart code) := by
  rw [repairLine, (h.trimStart isProper_outside rfl).splitComment_eq, List.append_nil]

/-- The indentation of a line that holds more than white space is that of its beginning. -/
theorem takeWhile_and_trimStart_append {s : List Char} (h : trimStart s ≠ []) (t : List Char) :
    (s ++ t).takeWhile isBlank = s.takeWhile isBlank ∧
      trimStart (s ++ t) = trimStart s ++ t := by
  have hbody : trimStart (s ++ t) = trimStart s ++ t := by
    rw [trimStart, List.dropWhile_append, if_neg (by simpa [trimStart] using h), trimStart]
  refine ⟨?_, hbody⟩
  have hline := takeWhile_append_trimStart (s ++ t)
  rw [hbody, ← List.append_assoc] at hline
  have hstart := List.append_cancel_right hline
  conv_rhs at hstart => rw [← takeWhile_append_trimStart s]
  exact List.append_cancel_right hstart

/-- A repair works on the code of a line and carries the comment over. -/
theorem repairLine_append {comment : List Char} (h : IsCut code comment) :
    repairLine (code ++ comment) = repairLine code ++ comment := by
  have hbody := h.trimStart.splitComment_eq
  cases h with
  | bare => rw [List.append_nil, List.append_nil]
  | @commented gap text hpass hend hgap =>
    rw [repairLine_of_passes hpass]
    by_cases hnil : code = []
    · -- The comment stands alone, and the white space in front of it is the indentation.
      subst hnil
      have hindent : (gap ++ '#' :: text).takeWhile isBlank = gap := by
        rw [List.takeWhile_append_of_pos hgap, List.takeWhile_cons_of_neg (by decide),
          List.append_nil]
      have htext : trimStart (gap ++ '#' :: text) = '#' :: text := by
        rw [trimStart, List.dropWhile_append_of_pos hgap, List.dropWhile_cons_of_neg (by decide)]
      have hcut : IsCut [] ([] ++ '#' :: text) := .commented (.nil _) (by simp) (by simp)
      have hsplit : splitComment ('#' :: text) = ([], '#' :: text) := hcut.splitComment_eq
      rw [List.nil_append, repairLine, hindent, htext, hsplit]
      simp [trimStart]
    · have hvisible : trimStart code ≠ [] := by
        obtain ⟨c, hc⟩ := Option.ne_none_iff_exists'.1 (mt List.getLast?_eq_none_iff.1 hnil)
        intro hblank
        have := List.dropWhile_eq_nil_iff.1 hblank c (List.mem_of_getLast? hc)
        simp [hend c hc] at this
      obtain ⟨hindent, htext⟩ := takeWhile_and_trimStart_append hvisible (gap ++ '#' :: text)
      rw [repairLine, hindent, htext, hbody]

theorem passes_repairLine (h : Passes .outside (trim code) r) {p : QuoteState}
    (hcode : Passes .outside code p) :
    Passes .outside (repairLine code)
      (if repairStatement (trim code) = trim code then r else r.settle).close := by
  rw [repairLine_of_passes hcode]
  exact (passes_outside (all_isPlain_takeWhile code)).append (passes_repairCode h)

/-- A repaired code has the same comment behind it. -/
theorem isCut_repairLine {comment : List Char} (h : IsCut code comment) :
    IsCut (repairLine code) comment := by
  obtain ⟨p, hcode⟩ := h.exists_passes
  obtain ⟨r, htrim, hsettle⟩ := hcode.trim isProper_outside rfl
  have hrepaired := passes_repairLine htrim hcode
  cases h with
  | bare => exact .bare hrepaired
  | commented hpass hend hgap =>
    obtain rfl : p = .outside := hcode.scanQuotes_eq.symm.trans hpass.scanQuotes_eq
    obtain rfl : r = .outside := settle_eq_outside_iff.1 hsettle
    rw [settle_outside, ite_self] at hrepaired
    refine .commented hrepaired (fun c hc => ?_) hgap
    rcases getLast?_repairLine code with e | ⟨d, hd, hvisible⟩
    · exact hend c (e ▸ hc)
    · obtain rfl : d = c := by simpa [hd] using hc
      exact hvisible

/-- The code of a repaired line is the repaired code, and its comment the line's. -/
theorem splitComment_repairLine (line : List Char) :
    splitComment (repairLine line) =
      (repairLine (splitComment line).1, (splitComment line).2) := by
  have hcut := isCut_splitComment line
  conv_lhs => rw [← splitComment_append line]
  rw [repairLine_append hcut, (isCut_repairLine hcut).splitComment_eq]

end ScriptPress.Repair
