import ScriptPress.Proofs.RepairScan

/-!
# The colon of a repaired header

A block header that lacks its colon gets it before its open literal and its open delimiters are
closed, and a header with a colon may have bare values put into brackets, colon and all. So the
repaired header ends in its colon exactly where neither happens.

## Main statements

* `blockKeyword?_trim` — white space around a header says nothing about its keyword.
* `endsWith_colon_closed` — what closing a statement does to a colon at its end.
* `header_ends_in_colon_iff` — when a repaired header ends in its colon.
-/

namespace ScriptPress.Script

open Text

/-! ## Keywords and white space -/

/-- White space at the end belongs to no keyword. -/
theorem firstWord_trimEnd {s : List Char} (h : firstWord s ∈ blockKeywords) :
    firstWord (trimEnd s) = firstWord s := by
  have letters : ∀ word ∈ blockKeywords, (word.any isBlank) = false := by decide
  have hword : firstWord s = (trimEnd s ++ takeEndWhile isBlank s).takeWhile isWord := by
    rw [trimEnd_append_takeEndWhile, firstWord]
  rw [List.takeWhile_append] at hword
  split at hword
  · rename_i hall
    -- The whole text is a word, so what follows it has no part in the keyword.
    have hrest : (takeEndWhile isBlank s).takeWhile isWord = [] := by
      rw [List.eq_nil_iff_forall_not_mem]
      intro c hc
      have hletter := List.any_eq_false.1 (letters _ h) c (by simp [hword, hc])
      exact hletter (eq_true_of_mem_takeEndWhile ((List.takeWhile_sublist _).subset hc))
    rw [hword, hrest, List.append_nil]
    exact (List.takeWhile_prefix isWord).eq_of_length hall
  · exact hword.symm

theorem firstWord_mem_of_blockKeyword? {s : List Char} (h : (blockKeyword? s).isSome = true) :
    firstWord (trimStart s) ∈ blockKeywords := by
  by_contra hnot
  simp [blockKeyword?, hnot] at h

/-- White space around a header says nothing about its keyword. -/
theorem blockKeyword?_trim {s : List Char} (h : (blockKeyword? s).isSome = true) :
    blockKeyword? (trim s) = blockKeyword? s := by
  have hword := firstWord_trimEnd (firstWord_mem_of_blockKeyword? h)
  rw [blockKeyword?, blockKeyword?, trimStart_trim, trim, hword]

/-- The letters that a header may begin with. -/
theorem exists_head_of_blockKeyword? {code : List Char} (h : (blockKeyword? code).isSome = true)
    (hstart : trimStart code = code) : ∃ c s, code = c :: s ∧ c ∈ "iefwdct".toList := by
  have heads : ∀ word ∈ blockKeywords,
      (word.head?.any fun c => c ∈ "iefwdct".toList) = true := by decide
  have hhead := heads _ (hstart ▸ firstWord_mem_of_blockKeyword? h)
  cases code with
  | nil => simp [firstWord] at hhead
  | cons c s =>
    rw [firstWord, List.takeWhile_cons] at hhead
    split at hhead
    · exact ⟨c, s, rfl, by simpa using hhead⟩
    · simp at hhead

end ScriptPress.Script

namespace ScriptPress.Repair

open Text Script QuoteState

variable {code : List Char}

/-- A rule leaves the first letter of a header where it is. -/
theorem head?_repairStatement {c : Char} {s : List Char} (hc : c ∈ "iefwdct".toList)
    (hcode : code = c :: s) : (repairStatement code).head? = some c := by
  have hsign : c ≠ '=' := by
    rintro rfl
    exact absurd hc (by decide)
  have hblank : isBlank c = false := by
    have visible : ∀ d ∈ "iefwdct".toList, isBlank d = false := by simp [isBlank]
    exact visible c hc
  have hleft : ∀ left right, code = left ++ '=' :: right → ∃ t, left = c :: t := by
    intro left right hcut
    rw [hcode] at hcut
    cases left with
    | nil => exact absurd (List.cons.inj hcut).1 hsign
    | cons d t => exact ⟨t, by rw [(List.cons.inj hcut).1]⟩
  have repaired := repairStatement_cases code
  generalize repairStatement code = code' at repaired ⊢
  cases repaired with
  | colon => simp [hcode]
  | @comparison left right _ _ hcut =>
    obtain ⟨t, rfl⟩ := hleft left right hcut
    rfl
  | nothing => simp [hcode]
  | @list left right _ _ _ hcut =>
    obtain ⟨t, rfl⟩ := hleft left right hcut
    have hfront : (trimEnd (c :: t)).head? = some c := by
      rw [trimEnd, dropEndWhile]
      split <;> simp [hblank]
    simp [List.head?_append, hfront]
  | kept => simp [hcode]

/-! ## Closing a statement -/

theorem endsWith_append_left {c : Char} {s : List Char} (h : c ∉ s) (t : List Char) :
    endsWith c (s ++ t) = endsWith c t := by
  cases e : t.getLast? with
  | none =>
    obtain rfl := List.getLast?_eq_none_iff.1 e
    have hlast : s.getLast? ≠ some c := fun hc => h (List.mem_of_getLast? hc)
    simpa [endsWith] using hlast
  | some d => simp [endsWith, List.getLast?_append, e]

theorem endsWith_append_right {c : Char} (s : List Char) {t : List Char} (h : c ∉ t) :
    endsWith c (s ++ t) = true ↔ endsWith c s = true ∧ t = [] := by
  cases e : t.getLast? with
  | none => simp [List.getLast?_eq_none_iff.1 e]
  | some d =>
    have hd : d ≠ c := fun hdc => h (List.mem_of_getLast? (hdc ▸ e))
    have hne : t ≠ [] := by
      rintro rfl
      simp at e
    simp [endsWith, List.getLast?_append, e, hd, hne]

theorem endsWith_closeQuote :
    endsWith ':' (closeQuote code) = true ↔ endsWith ':' code = true ∧ openQuote? code = none := by
  have hmark : ':' ∉ (openQuote? code).toList := by
    intro h
    rcases eq_or_eq_of_mem_openQuote? (Option.mem_toList.1 h) with e | e <;> simp at e
  rw [closeQuote, endsWith_append_right code hmark, Option.toList_eq_nil_iff]

theorem endsWith_closeDelimiters :
    endsWith ':' (closeDelimiters code) = true ↔ endsWith ':' code = true ∧ closers code = [] := by
  have hcloser : ':' ∉ closers code := fun h => absurd (mem_closers h) (by decide)
  rw [closeDelimiters, endsWith_append_right code hcloser]

/-- A text that does not begin in `p` is no print statement. -/
theorem callPrint_eq_self (h : code.head? ≠ some 'p') : callPrint code = code := by
  have repaired := callPrint_cases code
  generalize callPrint code = code' at repaired ⊢
  cases repaired with
  | call hcode => exact absurd (by simp [hcode]) h
  | kept => rfl

/-- A closed statement that does not begin in `p` ends in a colon where it did and nothing had to
be closed. -/
theorem endsWith_colon_closed {c : Char} (hhead : code.head? = some c) (hc : c ≠ 'p') :
    endsWith ':' (closeDelimiters (callPrint (closeQuote code))) = true ↔
      endsWith ':' code = true ∧ openQuote? code = none ∧ closers code = [] := by
  have hclosed : (closeQuote code).head? = some c := by
    simp [closeQuote, List.head?_append, hhead]
  rw [callPrint_eq_self (by simpa [hclosed] using hc), endsWith_closeDelimiters,
    endsWith_closeQuote, and_assoc]
  refine and_congr_right fun _ => and_congr_right fun hquote => ?_
  rw [closeQuote, hquote, Option.toList_none, List.append_nil]

/-! ## Headers -/

/-- The rule for a header without its colon, and that for a comparison, leave open what is open. -/
theorem open_append_colon (code : List Char) :
    openQuote? (code ++ [':']) = openQuote? code ∧ closers (code ++ [':']) = closers code := by
  have hscan := scanNesting_start_append code (t := [':']) (by decide) (by decide)
  rw [openQuote?_eq_mark?, openQuote?_eq_mark?, closers, closers, hscan, mark?_settle]
  exact ⟨rfl, rfl⟩

theorem open_comparison (left right : List Char) :
    openQuote? (left ++ "==".toList ++ right) = openQuote? (left ++ '=' :: right) ∧
      closers (left ++ "==".toList ++ right) = closers (left ++ '=' :: right) := by
  have hcut : left ++ '=' :: right = left ++ ['='] ++ right := by simp
  have hscan : scanNesting .start (left ++ "==".toList ++ right) =
      scanNesting .start (left ++ '=' :: right) := by
    rw [hcut, scanNesting_append, scanNesting_append _ (left ++ ['=']),
      scanNesting_start_append left (by decide) (by decide),
      scanNesting_start_append left (by decide) (by decide)]
  rw [openQuote?_eq_mark?, openQuote?_eq_mark?, closers, closers, hscan]
  exact ⟨rfl, rfl⟩

/-- A repaired header ends in its colon exactly where the header leaves neither a literal nor a
delimiter open, and no bare values behind an assignment sign are put into brackets together with
the colon. -/
theorem header_ends_in_colon_iff {line : List Char}
    (h : (blockKeyword? (splitComment line).1).isSome = true) :
    endsWith ':' (splitComment (repairLine line)).1 = true ↔
      openQuote? (trim (splitComment line).1) = none ∧ closers (trim (splitComment line).1) = [] ∧
        (lacksColon (trim (splitComment line).1) = true ∨
          (conditionAssignment? (trim (splitComment line).1)).isSome = true ∨
          bareTuple? (trim (splitComment line).1) = none) := by
  obtain ⟨p, hpass⟩ := (isCut_splitComment line).exists_passes
  rw [splitComment_repairLine, repairLine_of_passes hpass, repairCode_trimStart]
  have hindent : ':' ∉ (splitComment line).1.takeWhile isBlank := fun hm =>
    absurd (List.mem_takeWhile_imp hm) (by decide)
  rw [endsWith_append_left hindent]
  rw [← blockKeyword?_trim h] at h
  generalize hcode : trim (splitComment line).1 = code at h ⊢
  have hstart : trimStart code = code := hcode ▸ trimStart_trim _
  obtain ⟨c, s, hhead, hc⟩ := exists_head_of_blockKeyword? h hstart
  have hp : c ≠ 'p' := by
    rintro rfl
    exact absurd hc (by decide)
  rw [endsWith_colon_closed (head?_repairStatement hc hhead) hp]
  -- A header that keeps its colon ends in it.
  have hcolon : lacksColon code = false → endsWith ':' code = true := by
    intro hlacks
    simpa [lacksColon, h] using hlacks
  have repaired := repairStatement_cases code
  generalize repairStatement code = code' at repaired ⊢
  cases repaired with
  | colon hlacks => simp [open_append_colon, hlacks, endsWith]
  | @comparison left right hlacks hcondition hcut =>
    have hends : endsWith ':' (left ++ "==".toList ++ right) = endsWith ':' code := by
      have hsigns : left ++ "==".toList ++ right = (left ++ ['=']) ++ '=' :: right := by simp
      rw [hsigns, hcut, endsWith, endsWith, List.getLast?_append_cons, List.getLast?_append_cons]
    rw [hends, (open_comparison left right).1, (open_comparison left right).2, ← hcut]
    simp [hcolon hlacks, hcondition]
  | nothing hlacks _ hnothing =>
    have hends := hcolon hlacks
    rw [endsWith, getLast?_of_assignsNothing hnothing] at hends
    exact absurd hends (by decide)
  | @list left right hlacks hcondition htuple hcut =>
    have hends : ∀ t, endsWith ':' (t ++ "]".toList) = false := by simp [endsWith]
    rw [hends]
    simp [hlacks, hcondition, htuple]
  | kept hlacks hcondition htuple => simp [hcolon hlacks, htuple]

def quotedCondition : List Char := "  elif mode = 'a, (b':  # it's (".toList

/-- Nothing is open in front of the comment, so the repaired header ends in its colon. -/
theorem quotedCondition_ends_in_colon :
    (blockKeyword? (splitComment quotedCondition).1).isSome = true ∧
      endsWith ':' (splitComment (repairLine quotedCondition)).1 = true :=
  ⟨by decide +kernel, (header_ends_in_colon_iff (by decide +kernel)).2 (by decide +kernel)⟩

/-- The colon of this header comes to stand inside the parentheses. -/
theorem enclosed_colon :
    (blockKeyword? (splitComment "if (x".toList).1).isSome = true ∧
      repairLine "if (x".toList = "if (x:)".toList ∧
      endsWith ':' (splitComment (repairLine "if (x".toList)).1 = false := by
  decide +kernel

end ScriptPress.Repair
