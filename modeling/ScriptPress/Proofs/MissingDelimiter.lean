import ScriptPress.Diagnosis.Compile
import ScriptPress.Proofs.HeaderColon
import ScriptPress.Proofs.KeptText

/-!
# Missing delimiters

A diagnosis counts the delimiters of a line wherever they stand, a repair closes those that the
scanner leaves open, and the scanner passes over literals. So a repair adds the delimiter that a
diagnosis misses exactly where the scanner finds it missing too; it does where the line has more
opening than closing ones outside its literals.

## Main definitions

* `Finding.delimiters?` — the delimiter that is never closed, and the one that is missing.

## Main statements

* `count_unquoted_add_le` — what is owed behind a text, counted.
* `mem_closers_callPrint`, `count_repairLine` — which steps of a repair add a delimiter.
* `missing_delimiter_added_iff` — when a repair adds the delimiter that a diagnosis misses.
-/

namespace ScriptPress

/-- The delimiter that the line leaves open according to a finding, and the missing one. -/
def Finding.delimiters? : Finding → Option (Char × Char)
  | .unclosedParenthesis => some ('(', ')')
  | .unclosedBracket => some ('[', ']')
  | _ => none

namespace Script

open Text

variable {opening closing : Char}

/-! ## What is owed -/

/-- A closer is owed once more behind its opening delimiter, and at most once less behind itself. -/
theorem Nesting.count_owedAfter (hpair : closerOf? opening = some closing)
    (hclose : closerOf? closing = none) (owed : List Char) (c : Char) :
    owed.count closing + [c].count opening ≤
      (owedAfter owed c).count closing + [c].count closing := by
  have hne : opening ≠ closing := by
    rintro rfl
    simp [hclose] at hpair
  unfold owedAfter
  cases hc : closerOf? c with
  | some closer =>
    by_cases ho : c = opening
    · subst ho
      obtain rfl : closer = closing := by simpa [hc] using hpair
      simp [hne]
    · simp [ho, List.count_cons]
      omega
  | none =>
    have ho : c ≠ opening := by
      rintro rfl
      simp [hc] at hpair
    cases owed with
    | nil => simp [ho]
    | cons d owed =>
      by_cases hd : d = c
      · subst hd
        simp [ho, List.count_cons]
      · simp [ho, hd]

/-- Behind a text a closer is owed at least as often as its opening delimiter outranks it outside
the literals. -/
theorem count_unquoted_add_le (hpair : closerOf? opening = some closing)
    (hclose : closerOf? closing = none) (n : Nesting) (s : List Char) :
    n.owed.count closing + (unquoted n.quote s).count opening ≤
      (scanNesting n s).owed.count closing + (unquoted n.quote s).count closing := by
  induction s generalizing n with
  | nil => simp [unquoted, scanNesting]
  | cons c s ih =>
    have hrest := ih (n.step c)
    rw [scanNesting, List.foldl_cons, ← scanNesting]
    by_cases hq : n.quote = .outside
    · have hstep := Nesting.count_owedAfter hpair hclose n.owed c
      simp only [Nesting.step, hq, if_true] at hrest
      simp only [unquoted, hq, if_true, Nesting.step, List.count_cons]
      simp only [List.count_cons, List.count_nil, Nat.zero_add] at hstep
      omega
    · simpa only [unquoted, hq, if_false, Nesting.step] using hrest

/-- A character that opens nothing changes what is owed of itself only. -/
theorem Nesting.mem_owed_step {n : Nesting} {c d : Char} (hd : closerOf? d = none) (hc : c ≠ d) :
    c ∈ (n.step d).owed ↔ c ∈ n.owed := by
  simp only [Nesting.step, Nesting.owedAfter, hd]
  split
  · cases n.owed with
    | nil => simp
    | cons e owed =>
      by_cases he : e = d
      · simp [he, hc]
      · simp [he]
  · rfl

/-! ## One parenthesis more in front -/

/-- The second scanner owes what the first one does, and may owe the closing parenthesis of one
that was opened in front. -/
def Nesting.OwesParenthesis (n n' : Nesting) : Prop :=
  n'.quote = n.quote ∧ (n'.owed = n.owed ∨ n'.owed = n.owed ++ [')'])

theorem Nesting.OwesParenthesis.step {n n' : Nesting} (h : n.OwesParenthesis n') (c : Char) :
    (n.step c).OwesParenthesis (n'.step c) := by
  obtain ⟨hquote, howed⟩ := h
  refine ⟨by simp [Nesting.step, hquote], ?_⟩
  by_cases hq : n.quote = .outside
  · simp only [Nesting.step, hquote, hq, if_true, Nesting.owedAfter]
    cases closerOf? c with
    | some closer => exact howed.imp (by simp [·]) (by simp [·])
    | none =>
      rcases howed with howed | howed
      · exact .inl (by rw [howed])
      · rw [howed]
        cases n.owed with
        | nil => by_cases hc : c = ')' <;> simp [hc, eq_comm]
        | cons d owed => by_cases hd : d = c <;> simp [hd]
  · simpa only [Nesting.step, hquote, hq, if_false] using howed

theorem Nesting.OwesParenthesis.scan {n n' : Nesting} (h : n.OwesParenthesis n') (s : List Char) :
    (scanNesting n s).OwesParenthesis (scanNesting n' s) := by
  induction s generalizing n n' with
  | nil => exact h
  | cons c s ih => exact ih (h.step c)

theorem Nesting.OwesParenthesis.mem_owed_iff {n n' : Nesting} (h : n.OwesParenthesis n')
    {c : Char} (hc : c ≠ ')') : c ∈ n'.owed ↔ c ∈ n.owed := by
  rcases h.2 with e | e <;> simp [e, hc]

end Script

namespace Repair

open Text Script QuoteState

variable {code : List Char} {opening closing : Char}

/-! ## Steps that leave open what is open -/

theorem closers_repairStatement (h : bareTuple? code = none) :
    closers (repairStatement code) = closers code := by
  have repaired := repairStatement_cases code
  generalize repairStatement code = code' at repaired ⊢
  cases repaired with
  | colon => exact closers_append_of_isNeutral code (by decide)
  | @comparison left right _ _ hcut => rw [hcut, (open_comparison left right).2]
  | nothing => exact closers_append_of_isNeutral code (by decide)
  | list _ _ htuple => simp [h] at htuple
  | kept => rfl

/-- The mark that closes a literal is no delimiter. -/
theorem closers_closeQuote (code : List Char) : closers (closeQuote code) = closers code := by
  rw [closeQuote, openQuote?_eq_mark?, closers, scanNesting_append, closers]
  generalize scanNesting .start code = n
  obtain ⟨q, owed⟩ := n
  cases q <;> rfl

theorem callPrint_of_mem (h : '(' ∈ code) : callPrint code = code := by
  simp [callPrint, h]

/-- A call in place of a print statement closes the parenthesis that it opens. -/
theorem mem_closers_callPrint (hc : closing = ')' ∧ '(' ∈ code ∨ closing = ']') :
    closing ∈ closers (callPrint code) ↔ closing ∈ closers code := by
  rcases hc with ⟨-, hopen⟩ | rfl
  · rw [callPrint_of_mem hopen]
  have repaired := callPrint_cases code
  generalize callPrint code = code' at repaired ⊢
  cases repaired with
  | @call gap value tail hcode hgap htail =>
    have hfront : closers code = closers value := by
      rw [hcode, closers_append_left (by decide),
        closers_append_left (all_isNeutral_of_isBlank hgap),
        closers_append_of_isNeutral _ (all_isNeutral_of_isBlank htail)]
    have hopen : Nesting.start.OwesParenthesis (scanNesting .start "print(".toList) :=
      ⟨by decide, .inr (by decide)⟩
    have hvalue := (hopen.scan value).mem_owed_iff (c := ']') (by decide)
    rw [hfront, closers, scanNesting_append, scanNesting_append, closers, ← hvalue]
    exact Nesting.mem_owed_step (by decide) (by decide)
  | kept => rfl

/-! ## Counting closers -/

theorem count_visible {c : Char} (hc : isBlank c = false) (s : List Char) :
    (visible s).count c = s.count c :=
  List.count_filter (by simp [hc])

theorem count_trim {c : Char} (hc : isBlank c = false) (s : List Char) :
    (trim s).count c = s.count c := by
  rw [← count_visible hc, visible_trim, count_visible hc]

theorem count_repairStatement (hc : closing = ')' ∨ closing = ']') (h : bareTuple? code = none) :
    (repairStatement code).count closing = code.count closing := by
  have repaired := repairStatement_cases code
  generalize repairStatement code = code' at repaired ⊢
  cases repaired with
  | colon => rcases hc with rfl | rfl <;> simp
  | @comparison left right _ _ hcut => rcases hc with rfl | rfl <;> simp [hcut]
  | nothing => rcases hc with rfl | rfl <;> simp
  | list _ _ htuple => simp [h] at htuple
  | kept => rfl

theorem count_closeQuote (hc : closing = ')' ∨ closing = ']') (code : List Char) :
    (closeQuote code).count closing = code.count closing := by
  have hmark : closing ∉ (openQuote? code).toList := by
    intro h
    rcases eq_or_eq_of_mem_openQuote? (Option.mem_toList.1 h) with rfl | rfl <;> simp at hc
  rw [closeQuote, List.count_append, List.count_eq_zero_of_not_mem hmark, Nat.add_zero]

theorem count_callPrint (hc : closing = ')' ∧ '(' ∈ code ∨ closing = ']') :
    (callPrint code).count closing = code.count closing := by
  rcases hc with ⟨-, hopen⟩ | rfl
  · rw [callPrint_of_mem hopen]
  have repaired := callPrint_cases code
  generalize callPrint code = code' at repaired ⊢
  cases repaired with
  | @call gap value tail hcode hgap htail =>
    have hblank : ∀ s : List Char, (∀ c ∈ s, isBlank c = true) → s.count ']' = 0 := by
      intro s hs
      rw [← count_visible (by decide), visible_of_isBlank hs, List.count_nil]
    simp [hcode, hblank gap hgap, hblank tail htail]
  | kept => rfl

/-- The first steps of a repair keep a parenthesis that is there. -/
theorem mem_closed (h : closing = ')' ∧ '(' ∈ code ∨ closing = ']') :
    closing = ')' ∧ '(' ∈ closeQuote (repairStatement code) ∨ closing = ']' :=
  h.imp_left fun h => ⟨h.1, mem_of_visible_sublist
    ((visible_repairStatement code).trans (visible_closeQuote _)) (by decide) h.2⟩

/-- A repair adds the closers that its last step finds missing, and no other ones. -/
theorem count_repairLine {line : List Char} {closing : Char}
    (hc : closing = ')' ∧ '(' ∈ trim (splitComment line).1 ∨ closing = ']')
    (htuple : bareTuple? (trim (splitComment line).1) = none) :
    (repairLine line).count closing = line.count closing +
      (closers (callPrint (closeQuote (repairStatement (trim (splitComment line).1))))).count
        closing := by
  obtain ⟨r, hpass⟩ := (isCut_splitComment line).exists_passes
  have hor : closing = ')' ∨ closing = ']' := hc.imp_left And.left
  have hvisible : isBlank closing = false := by rcases hor with rfl | rfl <;> decide
  have hline : line.count closing =
      (trim (splitComment line).1).count closing + (splitComment line).2.count closing := by
    conv_lhs => rw [← splitComment_append line]
    rw [List.count_append, count_trim hvisible]
  have hindent : ((splitComment line).1.takeWhile isBlank).count closing = 0 := by
    rw [← count_visible hvisible, visible_of_isBlank fun _ => List.mem_takeWhile_imp,
      List.count_nil]
  conv_lhs => rw [← splitComment_append line]
  rw [repairLine_append (isCut_splitComment line), repairLine_of_passes hpass,
    repairCode_trimStart, closeDelimiters, List.count_append, List.count_append, List.count_append,
    hindent, count_callPrint (mem_closed hc), count_closeQuote hor,
    count_repairStatement hor htuple, hline]
  omega

end Repair

/-! ## Diagnoses -/

open Text Script Repair

/-- A diagnosis misses the delimiter of which the code has fewer. -/
theorem Diagnosis.count_lt_of_findInCode? {code : List Char} {finding : Finding}
    {opening closing : Char} (found : findInCode? code = some finding)
    (missing : finding.delimiters? = some (opening, closing)) :
    code.count closing < code.count opening ∧
      (opening = '(' ∧ closing = ')' ∨ opening = '[' ∧ closing = ']') := by
  have hpair : finding = .unclosedParenthesis ∧ opening = '(' ∧ closing = ')' ∨
      finding = .unclosedBracket ∧ opening = '[' ∧ closing = ']' := by
    cases finding <;> simp_all [Finding.delimiters?, eq_comm]
  rcases hpair with ⟨rfl, rfl, rfl⟩ | ⟨rfl, rfl, rfl⟩ <;> grind [findInCode?]

/-- Where a diagnosis finds a parenthesis or a bracket never closed, the repaired line has more
closing ones than the line exactly if the scanner, which passes over literals, is still owed one at
the end of the code. It is if the code has more opening than closing ones outside its literals. -/
theorem missing_delimiter_added_iff {line : List Char} {finding : Finding}
    {opening closing : Char} (found : Diagnosis.findInLine? line = some finding)
    (missing : finding.delimiters? = some (opening, closing)) :
    (line.count closing < (repairLine line).count closing ↔
        closing ∈ closers (splitComment line).1) ∧
      ((unquoted .outside (splitComment line).1).count closing <
          (unquoted .outside (splitComment line).1).count opening →
        line.count closing < (repairLine line).count closing) := by
  obtain ⟨hcount, hpair⟩ := Diagnosis.count_lt_of_findInCode? found missing
  have hopening : isBlank opening = false := by rcases hpair with ⟨rfl, -⟩ | ⟨rfl, -⟩ <;> decide
  have hopen : opening ∈ trim (splitComment line).1 := by
    have hmem : opening ∈ trimEnd (splitComment line).1 := List.count_pos_iff.1 (by omega)
    exact mem_of_visible_sublist (by simp) hopening hmem
  have htuple : bareTuple? (trim (splitComment line).1) = none := by
    rcases hpair with ⟨rfl, -⟩ | ⟨rfl, -⟩ <;> simp [bareTuple?, hopen]
  have hparenthesis : closing = ')' ∧ '(' ∈ trim (splitComment line).1 ∨ closing = ']' := by
    rcases hpair with ⟨rfl, rfl⟩ | ⟨-, rfl⟩
    · exact .inl ⟨rfl, hopen⟩
    · exact .inr rfl
  have hiff : line.count closing < (repairLine line).count closing ↔
      closing ∈ closers (splitComment line).1 := by
    rw [count_repairLine hparenthesis htuple, Nat.lt_add_right_iff_pos, List.count_pos_iff,
      mem_closers_callPrint (mem_closed hparenthesis), closers_closeQuote,
      closers_repairStatement htuple, closers_trim]
  refine ⟨hiff, fun hmore => hiff.2 ?_⟩
  have hopens : closerOf? opening = some closing := by
    rcases hpair with ⟨rfl, rfl⟩ | ⟨rfl, rfl⟩ <;> rfl
  have hcloses : closerOf? closing = none := by
    rcases hpair with ⟨rfl, rfl⟩ | ⟨rfl, rfl⟩ <;> rfl
  have howed := count_unquoted_add_le hopens hcloses .start (splitComment line).1
  rw [← List.count_pos_iff, closers]
  simp only [Nesting.start, List.count_nil] at howed ⊢
  omega

/-- A print statement with brackets in its literals and in its comment, and an open one between
them. -/
def openSubscript : List Char := "  print \x7bx['[', '[]', y\x7d  # [see".toList

/-- The bracket that is open outside the literals is closed. -/
theorem openSubscript_bracket_added :
    Diagnosis.findInLine? openSubscript = some .unclosedBracket ∧
      Finding.unclosedBracket.delimiters? = some ('[', ']') ∧
      openSubscript.count ']' < (repairLine openSubscript).count ']' := by
  have found : Diagnosis.findInLine? openSubscript = some .unclosedBracket := by decide +kernel
  exact ⟨found, rfl, (missing_delimiter_added_iff found rfl).2 (by decide +kernel)⟩

/-- The parenthesis in this literal counts for the diagnosis and not for the repair. -/
theorem quoted_parenthesis_not_added :
    Diagnosis.findInLine? "s = '(' t".toList = some .unclosedParenthesis ∧
      ¬ "s = '(' t".toList.count ')' < (repairLine "s = '(' t".toList).count ')' := by
  decide +kernel

end ScriptPress
