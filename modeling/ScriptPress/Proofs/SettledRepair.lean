import Mathlib.Logic.Function.Iterate
import ScriptPress.Proofs.NextRepair

/-!
# Repeated repairs

A closing delimiter behind a colon calls for another colon, and a colon lets a rule apply that was
held back. But what a repair makes of a line stands in the way of the rule that made it, so a few
repairs settle every line.

## Main definitions

* `SettlesIn` — a bound on the repairs after which the code stays as it is.
* `ClosedHeader`, `ClosedStatement` — code that leaves nothing open, with a block keyword and
  without one.

## Main statements

* `settlesIn_of_header`, `settlesIn_of_statement` — headers settle in five repairs, and other
  statements in four.
* `repairLine_settles` — every line settles in five repairs.
-/

namespace ScriptPress.Repair

open Text Script QuoteState

variable {code : List Char}

/-! ## Settling -/

/-- After at most so many repairs the next one leaves the code as it is. -/
inductive SettlesIn : ℕ → List Char → Prop
  | settled {n : ℕ} {code : List Char} : repairCode code = code → SettlesIn n code
  | repaired {n : ℕ} {code : List Char} : SettlesIn n (nextCode code) → SettlesIn (n + 1) code

theorem SettlesIn.mono {n m : ℕ} (h : SettlesIn n code) (hnm : n ≤ m) : SettlesIn m code := by
  induction h generalizing m with
  | settled h => exact .settled h
  | repaired _ ih =>
    cases m with
    | zero => omega
    | succ m => exact .repaired (ih (by omega))

theorem IsBare.iterate (h : IsBare code) (n : ℕ) : IsBare (nextCode^[n] code) := by
  induction n with
  | zero => exact h
  | succ n ih => exact Function.iterate_succ_apply' .. ▸ ih.nextCode

theorem SettlesIn.repairCode_iterate {n : ℕ} (h : SettlesIn n code) (hbare : IsBare code) :
    repairCode (nextCode^[n] code) = nextCode^[n] code := by
  induction h with
  | @settled n code h =>
    have hfixed : nextCode code = code := by rw [nextCode, h, hbare.front]
    rw [Function.iterate_fixed hfixed, h]
  | repaired _ ih => exact ih hbare.nextCode

theorem mem_nextCode {c : Char} (hvisible : isBlank c = false) (hc : c ∈ repairCode code) :
    c ∈ nextCode code :=
  mem_of_visible_sublist (by rw [nextCode, visible_trimStart]) hvisible hc

/-- Bare values get a bracket in front. -/
theorem IsBare.mem_nextCode_of_bareTuple? (h : IsBare code) {cut : List Char × List Char}
    (hcolon : lacksColon code = false) (hcondition : conditionAssignment? code = none)
    (hnothing : assignsNothing code = false) (htuple : bareTuple? code = some cut) :
    '[' ∈ nextCode code := by
  have hbracket : '[' ∈ repairStatement code := by
    simp [repairStatement, hcolon, hcondition, hnothing, htuple]
  have hkept := (visible_closeQuote (repairStatement code)).trans <|
    (visible_callPrint _).trans (visible_closeDelimiters _)
  rw [← h.repairCode_eq] at hkept
  exact mem_nextCode (by decide) (mem_of_visible_sublist hkept (by decide) hbracket)

/-! ### Headers -/

structure ClosedHeader (code : List Char) : Prop extends IsBare code where
  keyword : (blockKeyword? code).isSome = true
  closed : IsClosed code

namespace ClosedHeader

theorem lacksColon_eq (h : ClosedHeader code) : lacksColon code = !endsWith ':' code := by
  rw [lacksColon, h.keyword, Bool.true_and]

protected theorem nextCode (h : ClosedHeader code) : ClosedHeader (nextCode code) where
  toIsBare := h.toIsBare.nextCode
  keyword := by rw [blockKeyword?_nextCode h.toIsBare, h.keyword]
  closed := by
    apply h.isClosed_nextCode
    intro _
    rw [mark?_eq_none_iff.1 h.closed.quote, takesNext_outside]

/-- What a rule makes of a header, where it leaves nothing open, is all that a repair does. -/
theorem repairCode_eq_repairStatement (h : ClosedHeader code)
    (hclosed : IsClosed (repairStatement code)) :
    repairCode code = repairStatement code ∧ nextCode code = repairStatement code := by
  obtain ⟨c, s, hcode, hc⟩ := exists_head_of_blockKeyword? h.keyword h.front
  have hhead := head?_repairStatement hc hcode
  have hp : c ≠ 'p' := by
    rintro rfl
    exact absurd hc (by decide)
  have hvisible : isBlank c = false := by
    have visible : ∀ d ∈ "iefwdct".toList, isBlank d = false := by simp [isBlank]
    exact visible c hc
  have hfront : trimStart (repairStatement code) = repairStatement code := by
    obtain ⟨t, ht⟩ := List.head?_eq_some_iff.1 hhead
    rw [ht]
    exact List.dropWhile_cons_of_neg (by simp [hvisible])
  have hrepair := h.repairCode_of_isClosed hclosed (callPrint_eq_self (by simpa [hhead] using hp))
  exact ⟨hrepair, by rw [Repair.nextCode, hrepair, hfront]⟩

theorem assignsNothing_eq (hcolon : endsWith ':' code = true) : assignsNothing code = false := by
  rw [Bool.eq_false_iff]
  intro hnothing
  rw [endsWith, getLast?_of_assignsNothing hnothing] at hcolon
  exact absurd hcolon (by decide)

/-- A header to which no rule applies is settled. -/
theorem settled (h : ClosedHeader code) (hcolon : endsWith ':' code = true)
    (hcondition : conditionAssignment? code = none) (htuple : bareTuple? code = none) :
    repairCode code = code := by
  have hself : repairStatement code = code := by
    simp [repairStatement, h.lacksColon_eq, hcolon, hcondition, assignsNothing_eq hcolon, htuple]
  obtain ⟨hrepair, -⟩ := h.repairCode_eq_repairStatement (hself.symm ▸ h.closed)
  rw [hrepair, hself]

/-- A header gets its colon. -/
theorem nextCode_of_lacksColon (h : ClosedHeader code) (hcolon : endsWith ':' code = false) :
    nextCode code = code ++ [':'] := by
  have hself : repairStatement code = code ++ [':'] := by
    simp [repairStatement, h.lacksColon_eq, hcolon]
  have hopen := open_append_colon code
  have hclosed : IsClosed (repairStatement code) := by
    rw [hself]
    exact ⟨hopen.1.trans h.closed.quote, hopen.2.trans h.closed.owed⟩
  rw [(h.repairCode_eq_repairStatement hclosed).2, hself]

/-- A condition that has got its comparison is settled: it has no other assignment sign. -/
theorem settlesIn_of_condition (h : ClosedHeader code) {cut : List Char × List Char}
    (hcolon : endsWith ':' code = true) (hcondition : conditionAssignment? code = some cut) :
    SettlesIn 1 code := by
  obtain ⟨left, right⟩ := cut
  have hcut := eq_append_of_conditionAssignment? hcondition
  have hself : repairStatement code = left ++ '=' :: '=' :: right := by
    simp [repairStatement, h.lacksColon_eq, hcolon, hcondition]
  have hopen : IsClosed (repairStatement code) := by
    obtain ⟨hquote, howed⟩ := open_comparison left right
    have hsigns : left ++ "==".toList ++ right = left ++ '=' :: '=' :: right := by simp
    rw [hself, ← hsigns]
    exact ⟨hquote.trans (hcut ▸ h.closed.quote), howed.trans (hcut ▸ h.closed.owed)⟩
  have hnext := (h.repairCode_eq_repairStatement hopen).2.trans hself
  have hassignments : assignments (nextCode code) = [] := by
    rw [hnext]
    exact assignments_comparison (hcut ▸ assignments_of_conditionAssignment? hcondition)
  have hends : endsWith ':' (nextCode code) = true := by
    rw [hcut, endsWith, List.getLast?_append_cons] at hcolon
    rw [hnext, endsWith, List.getLast?_append_cons, List.getLast?_cons_cons, hcolon]
  refine .repaired (.settled (h.nextCode.settled hends ?_ ?_))
  · simp [conditionAssignment?, hassignments]
  · simp [bareTuple?, hassignments]

/-- In a header with a bracket no rule puts bare values into brackets, so that it gets its colon and
its comparison at most. -/
theorem settlesIn_of_bracket (h : ClosedHeader code) (hbracket : '[' ∈ code) :
    SettlesIn 2 code := by
  have colon : ∀ {code}, ClosedHeader code → '[' ∈ code → endsWith ':' code = true →
      SettlesIn 1 code := by
    intro code h hbracket hcolon
    have htuple : bareTuple? code = none := by simp [bareTuple?, hbracket]
    cases hcondition : conditionAssignment? code with
    | none => exact .settled (h.settled hcolon hcondition htuple)
    | some cut => exact h.settlesIn_of_condition hcolon hcondition
  cases hcolon : endsWith ':' code with
  | true => exact (colon h hbracket hcolon).mono (by omega)
  | false =>
    have hnext := h.nextCode_of_lacksColon hcolon
    exact .repaired (colon h.nextCode (by simp [hnext, hbracket]) (by simp [hnext, endsWith]))

/-- With its colon, a header may have bare values put into brackets together with the colon, and
then it gets another one. -/
theorem settlesIn_of_colon (h : ClosedHeader code) (hcolon : endsWith ':' code = true) :
    SettlesIn 3 code := by
  cases hcondition : conditionAssignment? code with
  | some cut => exact (h.settlesIn_of_condition hcolon hcondition).mono (by omega)
  | none =>
    cases htuple : bareTuple? code with
    | none => exact .settled (h.settled hcolon hcondition htuple)
    | some cut =>
      have hlacks : lacksColon code = false := by simp [h.lacksColon_eq, hcolon]
      exact .repaired (h.nextCode.settlesIn_of_bracket
        (h.mem_nextCode_of_bareTuple? hlacks hcondition (assignsNothing_eq hcolon) htuple))

theorem settlesIn (h : ClosedHeader code) : SettlesIn 4 code := by
  cases hcolon : endsWith ':' code with
  | true => exact (h.settlesIn_of_colon hcolon).mono (by omega)
  | false =>
    have hnext := h.nextCode_of_lacksColon hcolon
    exact .repaired (h.nextCode.settlesIn_of_colon (by simp [hnext, endsWith]))

end ClosedHeader

/-- The first repair of a header closes it: it has a colon at its end, or gets one there, and no
backslash takes a mark along behind it. -/
theorem settlesIn_of_header (h : IsBare code) (hheader : (blockKeyword? code).isSome = true) :
    SettlesIn 5 code := by
  have hclosed : IsClosed (nextCode code) := by
    apply h.isClosed_nextCode
    intro hself
    obtain ⟨r, hr⟩ := h.passes
    have hcolon : code.getLast? = some ':' := by
      by_contra hcolon
      have hlacks : lacksColon code = true := by simp [lacksColon, hheader, endsWith, hcolon]
      simp [repairStatement, hlacks] at hself
    rw [hr.scanQuotes_eq]
    exact takesNext_eq_false hr hcolon (by decide)
  have hnext : ClosedHeader (nextCode code) :=
    ⟨h.nextCode, by rw [blockKeyword?_nextCode h, hheader], hclosed⟩
  exact .repaired hnext.settlesIn

/-! ### Other statements -/

/-- A statement other than a header that leaves nothing open and assigns something. -/
structure ClosedStatement (code : List Char) : Prop extends IsBare code where
  keyword : blockKeyword? code = none
  closed : IsClosed code
  assigns : code.getLast? ≠ some '='

/-- No rule leaves an assignment sign at the end. -/
theorem getLast?_repairStatement (code : List Char) :
    repairStatement code = code ∨ (repairStatement code).getLast? ≠ some '=' := by
  have repaired := repairStatement_cases code
  generalize repairStatement code = code' at repaired ⊢
  cases repaired with
  | colon => exact .inr (by simp)
  | @comparison left right hcolon hcondition hcut =>
    have hlast := getLast?_of_conditionAssignment? hcolon hcondition
    have hsigns : left ++ "==".toList ++ right = left ++ ['='] ++ '=' :: right := by simp
    rw [hcut, List.getLast?_append_cons] at hlast
    rw [hsigns, List.getLast?_append_cons, hlast]
    exact .inr (by decide)
  | nothing => exact .inr (by simp)
  | list =>
    rw [List.getLast?_append]
    exact .inr (by simp)
  | kept => exact .inl rfl

theorem getLast?_callPrint (code : List Char) :
    callPrint code = code ∨ (callPrint code).getLast? ≠ some '=' := by
  have repaired := callPrint_cases code
  generalize callPrint code = code' at repaired ⊢
  cases repaired with
  | call =>
    rw [List.getLast?_append]
    exact .inr (by simp)
  | kept => exact .inl rfl

/-- Nor does a repair, unless it leaves the code as it is. -/
theorem getLast?_nextCode (h : IsBare code) :
    repairCode code = code ∨ (nextCode code).getLast? ≠ some '=' := by
  have append : ∀ s t : List Char, '=' ∉ t → s ++ t = s ∨ (s ++ t).getLast? ≠ some '=' := by
    intro s t ht
    cases hlast : t.getLast? with
    | none => exact .inl (by rw [List.getLast?_eq_none_iff.1 hlast, List.append_nil])
    | some c =>
      rw [List.getLast?_append, hlast, Option.some_or]
      exact .inr fun e => ht (List.mem_of_getLast? (hlast.trans e))
  have trans : ∀ {s t : List Char}, s = code ∨ s.getLast? ≠ some '=' →
      t = s ∨ t.getLast? ≠ some '=' → t = code ∨ t.getLast? ≠ some '=' := by
    rintro s t hs (rfl | ht)
    · exact hs
    · exact .inr ht
  have hmark : '=' ∉ (openQuote? (repairStatement code)).toList := by
    intro hmem
    rcases eq_or_eq_of_mem_openQuote? (Option.mem_toList.1 hmem) with e | e <;>
      exact absurd e (by decide)
  have howed : '=' ∉ closers (callPrint (closeQuote (repairStatement code))) := fun hmem =>
    absurd (mem_closers hmem) (by decide)
  have hquote := trans (getLast?_repairStatement code) (append _ _ hmark)
  have hrepair := trans (trans hquote (getLast?_callPrint _)) (append _ _ howed)
  rw [nextCode, h.solid_repairCode.getLast?_trimStart, h.repairCode_eq]
  exact hrepair

namespace ClosedStatement

protected theorem nextCode (h : ClosedStatement code) : ClosedStatement (nextCode code) where
  toIsBare := h.toIsBare.nextCode
  keyword := by rw [blockKeyword?_nextCode h.toIsBare, h.keyword]
  closed := by
    apply h.isClosed_nextCode
    intro _
    rw [mark?_eq_none_iff.1 h.closed.quote, takesNext_outside]
  assigns := by
    rcases getLast?_nextCode h.toIsBare with e | hlast
    · rw [Repair.nextCode, e, h.front]
      exact h.assigns
    · exact hlast

/-- Of the rules, only that for bare values applies. -/
theorem no_other_rule (h : ClosedStatement code) :
    lacksColon code = false ∧ conditionAssignment? code = none ∧ assignsNothing code = false := by
  have hstart : startsCondition code = false := by
    rw [Bool.eq_false_iff]
    intro hstart
    simpa [h.keyword] using isSome_blockKeyword?_of_startsCondition hstart
  have hnothing : assignsNothing code = false := by
    rw [Bool.eq_false_iff]
    exact fun hnothing => h.assigns (getLast?_of_assignsNothing hnothing)
  exact ⟨by simp [lacksColon, h.keyword], by simp [conditionAssignment?, hstart], hnothing⟩

/-- Without bare values, at most a print statement becomes a call. -/
theorem repairCode_eq_callPrint (h : ClosedStatement code) (htuple : bareTuple? code = none) :
    repairCode code = closeDelimiters (callPrint code) := by
  obtain ⟨hcolon, hcondition, hnothing⟩ := h.no_other_rule
  have hself : repairStatement code = code := by
    simp [repairStatement, hcolon, hcondition, hnothing, htuple]
  rw [h.repairCode_eq, hself, closeQuote, h.closed.quote, Option.toList_none, List.append_nil]

/-- A parenthesis keeps away the brackets of bare values and the call of a print statement. -/
theorem settled (h : ClosedStatement code) (hopen : '(' ∈ code) : repairCode code = code := by
  have htuple : bareTuple? code = none := by simp [bareTuple?, hopen]
  rw [h.repairCode_eq_callPrint htuple, callPrint, if_pos (by simpa using hopen), closeDelimiters,
    h.closed.owed, List.append_nil]

theorem settlesIn_of_bareTuple? (h : ClosedStatement code) (htuple : bareTuple? code = none) :
    SettlesIn 1 code := by
  have hrepair := h.repairCode_eq_callPrint htuple
  have repaired := callPrint_cases code
  generalize callPrint code = code' at repaired hrepair
  cases repaired with
  | call =>
    have hopen : '(' ∈ nextCode code :=
      mem_nextCode (by decide) (by simp [hrepair, closeDelimiters])
    exact .repaired (.settled (h.nextCode.settled hopen))
  | kept =>
    rw [closeDelimiters, h.closed.owed, List.append_nil] at hrepair
    exact .settled hrepair

theorem settlesIn (h : ClosedStatement code) : SettlesIn 2 code := by
  cases htuple : bareTuple? code with
  | none => exact (h.settlesIn_of_bareTuple? htuple).mono (by omega)
  | some cut =>
    obtain ⟨hcolon, hcondition, hnothing⟩ := h.no_other_rule
    have hbracket := h.mem_nextCode_of_bareTuple? hcolon hcondition hnothing htuple
    exact .repaired (h.nextCode.settlesIn_of_bareTuple? (by simp [bareTuple?, hbracket]))

end ClosedStatement

/-- The first repair of a statement takes the reach of a backslash off its end, and the second one
closes it. -/
theorem settlesIn_of_statement (h : IsBare code) (hstatement : blockKeyword? code = none) :
    SettlesIn 4 code := by
  rcases getLast?_nextCode h.nextCode with e | hlast
  · exact .repaired (.settled e)
  · have hkeyword : blockKeyword? (nextCode (nextCode code)) = none := by
      rw [blockKeyword?_nextCode h.nextCode, blockKeyword?_nextCode h, hstatement]
    have hclosed := h.nextCode.isClosed_nextCode fun _ => h.takesNext_nextCode
    have hnext : ClosedStatement (nextCode (nextCode code)) :=
      ⟨h.nextCode.nextCode, hkeyword, hclosed, hlast⟩
    exact .repaired (.repaired hnext.settlesIn)

theorem settlesIn (h : IsBare code) : SettlesIn 5 code := by
  cases hkeyword : blockKeyword? code with
  | none => exact (settlesIn_of_statement h hkeyword).mono (by omega)
  | some word => exact settlesIn_of_header h (by rw [hkeyword, Option.isSome_some])

/-! ## Whole lines -/

/-- Code with indentation is repaired behind it. -/
theorem IsBare.repairLine_append (h : IsBare code) {indent : List Char}
    (hindent : ∀ c ∈ indent, isBlank c = true) :
    repairLine (indent ++ code) = indent ++ repairCode code := by
  obtain ⟨r, hr⟩ := h.passes
  have hpass := (passes_outside (all_isPlain_of_isBlank hindent)).append hr
  have hstart : trimStart (indent ++ code) = code := by
    rw [trimStart, List.dropWhile_append_of_pos hindent, ← trimStart, h.front]
  have htake := takeWhile_append_trimStart (indent ++ code)
  rw [hstart] at htake
  rw [repairLine_of_passes hpass, hstart, List.append_cancel_right htake]

/-- Only white space comes to stand between the indentation and the code of the next repair. -/
theorem IsBare.iterate_repairLine (h : IsBare code) {indent : List Char}
    (hindent : ∀ c ∈ indent, isBlank c = true) (n : ℕ) :
    ∃ indent', (∀ c ∈ indent', isBlank c = true) ∧
      repairLine^[n] (indent ++ code) = indent' ++ nextCode^[n] code := by
  induction n generalizing indent code with
  | zero => exact ⟨indent, hindent, rfl⟩
  | succ n ih =>
    have hblank : ∀ c ∈ indent ++ (repairCode code).takeWhile isBlank, isBlank c = true :=
      List.forall_mem_append.2 ⟨hindent, fun _ => List.mem_takeWhile_imp⟩
    obtain ⟨indent', hindent', hrest⟩ := ih h.nextCode hblank
    refine ⟨indent', hindent', ?_⟩
    rw [Function.iterate_succ_apply, Function.iterate_succ_apply, h.repairLine_append hindent,
      ← hrest, List.append_assoc, Repair.nextCode, takeWhile_append_trimStart]

/-- Five repairs settle a line that has no comment. -/
theorem repairLine_iterate_five {r : QuoteState} (h : Passes .outside code r) :
    repairLine (repairLine^[5] code) = repairLine^[5] code := by
  by_cases hblank : trim code = []
  · have hline : repairLine code = code := by
      have hindent := takeWhile_append_trimStart code
      rw [show trimStart code = [] from List.dropWhile_eq_nil_iff.2 (trim_eq_nil_iff.1 hblank),
        List.append_nil] at hindent
      rw [repairLine_of_passes h, repairCode_trimStart, hblank, hindent]
      exact List.append_nil code
    rw [Function.iterate_fixed hline, hline]
  · have hbare : IsBare (trim code) := by
      obtain ⟨p, hp, -⟩ := h.trim isProper_outside rfl
      exact ⟨⟨p, hp⟩, trimStart_trim code, isSolid_trimEnd hblank⟩
    have hfirst : repairLine code = repairLine (code.takeWhile isBlank ++ trim code) := by
      rw [repairLine_of_passes h, hbare.repairLine_append fun _ => List.mem_takeWhile_imp,
        repairCode_trimStart, hbare.repairCode_eq]
    obtain ⟨indent, hindent, hiterate⟩ :=
      hbare.iterate_repairLine (fun _ => List.mem_takeWhile_imp) 5
    rw [Function.iterate_succ_apply, hfirst, ← Function.iterate_succ_apply, hiterate,
      (hbare.iterate 5).repairLine_append hindent, (settlesIn hbare).repairCode_iterate hbare]

theorem iterate_repairLine_append {comment : List Char} (h : IsCut code comment) (n : ℕ) :
    IsCut (repairLine^[n] code) comment ∧
      repairLine^[n] (code ++ comment) = repairLine^[n] code ++ comment := by
  induction n with
  | zero => exact ⟨h, rfl⟩
  | succ n ih =>
    rw [Function.iterate_succ_apply', Function.iterate_succ_apply', ih.2]
    exact ⟨isCut_repairLine ih.1, Repair.repairLine_append ih.1⟩

/-- A line that is repaired again and again stays as it is from the fifth repair on. -/
theorem repairLine_settles (line : List Char) (n : ℕ) :
    repairLine^[n + 5] line = repairLine^[5] line := by
  have hcut := isCut_splitComment line
  obtain ⟨r, hpass⟩ := hcut.exists_passes
  have hfixed : repairLine (repairLine^[5] line) = repairLine^[5] line := by
    obtain ⟨hcut', hline⟩ := iterate_repairLine_append hcut 5
    rw [← splitComment_append line, hline, Repair.repairLine_append hcut',
      repairLine_iterate_five hpass]
  rw [Function.iterate_add_apply, Function.iterate_fixed hfixed]

/-- Two repairs close this line behind its colon, and the third one puts the next colon into
brackets. -/
example : repairLine^[3] "if\"=,=".toList = "if\" = [,=:\":]".toList ∧
    repairLine^[4] "if\"=,=".toList = "if\" = [,=:\":]:".toList := by
  decide +kernel

end ScriptPress.Repair
