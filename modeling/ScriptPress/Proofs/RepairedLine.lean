import Mathlib.Data.Option.Basic
import ScriptPress.Proofs.RawLine

/-!
# What a repair puts on a line

A repaired line holds the characters of the line and a few more, none of which ends a line. It ends
as the line did, in the same character, unless its last character is visible; so no line ending
joins its content.

## Main definitions

* `StatementRepair`, `PrintRepair` — the ways in which a rule changes a statement, one for each.
* `insertedChars` — every character that a repair may add.
* `IsSolid` — the text ends in a character that is no white space.

## Main statements

* `mem_repairLine` — where the characters of a repaired line come from.
* `getLast?_repairLine` — how a repaired line ends.
-/

namespace ScriptPress.Repair

open Text Script

/-! ## The closing characters -/

/-- A literal ends at a quote character whatever the line is. -/
theorem isQuote_of_mem_mark? {q : QuoteState} (hq : ∀ c ∈ q.mark?, isQuote c = true)
    (s : List Char) : ∀ c ∈ (scanQuotes q s).mark?, isQuote c = true := by
  induction s generalizing q with
  | nil => exact hq
  | cons d s ih =>
    apply ih
    intro c hc
    cases q with
    | outside =>
      by_cases h : isQuote d = true
      · simp only [QuoteState.step, h, if_true, QuoteState.mark?_inside, Option.mem_some] at hc
        exact hc ▸ h
      · simp [QuoteState.step, h] at hc
    | inside mark escaped =>
      have : c = mark := by
        cases escaped <;> grind [QuoteState.step, QuoteState.mark?]
      exact hq c (by simp [this])

theorem eq_or_eq_of_mem_openQuote? {s : List Char} {c : Char} (h : c ∈ openQuote? s) :
    c = '\'' ∨ c = '"' := by
  have := isQuote_of_mem_mark? (q := .outside) (by simp) s c h
  simpa [isQuote] using this

/-- What is owed is owed by an opening delimiter. -/
theorem mem_owed {n : Nesting} (hn : ∀ c ∈ n.owed, c ∈ [')', ']', '}']) (s : List Char) :
    ∀ c ∈ (scanNesting n s).owed, c ∈ [')', ']', '}'] := by
  induction s generalizing n with
  | nil => exact hn
  | cons d s ih =>
    apply ih
    intro c hc
    unfold Nesting.step at hc
    dsimp only at hc
    split at hc
    · unfold Nesting.owedAfter at hc
      split at hc
      · rename_i closer h
        rcases List.mem_cons.1 hc with rfl | hc
        · unfold closerOf? at h
          split_ifs at h <;> cases h <;> decide
        · exact hn c hc
      · split at hc
        · exact hn c (List.mem_of_mem_tail hc)
        · exact hn c hc
    · exact hn c hc

theorem mem_closers {s : List Char} {c : Char} (h : c ∈ closers s) : c ∈ [')', ']', '}'] :=
  mem_owed (n := .start) (by simp [Nesting.start]) s c h

variable {code : List Char}

/-! ## The rules, one case for each -/

/-- The condition rule cuts at the only assignment sign of the line. -/
theorem assignments_of_conditionAssignment? {cut : List Char × List Char}
    (h : conditionAssignment? code = some cut) : assignments code = [cut] := by
  unfold conditionAssignment? at h
  split at h
  · split at h
    · rename_i e
      rw [e, Option.some.inj h]
    · simp at h
  · simp at h

/-- The list rule cuts at the first assignment sign of the line. -/
theorem head?_assignments_of_bareTuple? {cut : List Char × List Char}
    (h : bareTuple? code = some cut) : (assignments code).head? = some cut := by
  unfold bareTuple? at h
  split at h
  · exact h
  · simp at h

/-- The two sides of an assignment sign are the line's. -/
theorem eq_append_of_conditionAssignment? {left right : List Char}
    (h : conditionAssignment? code = some (left, right)) : code = left ++ '=' :: right := by
  have hmem : (left, right) ∈ assignments code := by simp [assignments_of_conditionAssignment? h]
  exact eq_append_of_mem_assignments hmem

theorem eq_append_of_bareTuple? {left right : List Char}
    (h : bareTuple? code = some (left, right)) : code = left ++ '=' :: right :=
  eq_append_of_mem_assignments (List.mem_of_head? (head?_assignments_of_bareTuple? h))

/-- What the first of the four rules that applies makes of a statement. -/
inductive StatementRepair (code : List Char) : List Char → Prop
  | colon : lacksColon code = true → StatementRepair code (code ++ [':'])
  | comparison {left right : List Char} : lacksColon code = false →
      conditionAssignment? code = some (left, right) → code = left ++ '=' :: right →
      StatementRepair code (left ++ "==".toList ++ right)
  | nothing : lacksColon code = false → conditionAssignment? code = none →
      assignsNothing code = true → StatementRepair code (code ++ " None".toList)
  | list {left right : List Char} : lacksColon code = false → conditionAssignment? code = none →
      bareTuple? code = some (left, right) → code = left ++ '=' :: right →
      StatementRepair code (trimEnd left ++ " = [".toList ++ trim right ++ "]".toList)
  | kept : lacksColon code = false → conditionAssignment? code = none → bareTuple? code = none →
      StatementRepair code code

theorem repairStatement_cases (code : List Char) : StatementRepair code (repairStatement code) := by
  unfold repairStatement
  split
  · exact .colon ‹_›
  · rename_i hcolon
    rw [Bool.not_eq_true] at hcolon
    split
    · rename_i left right e
      exact .comparison hcolon e (eq_append_of_conditionAssignment? e)
    · rename_i hcondition
      split
      · exact .nothing hcolon hcondition ‹_›
      · split
        · rename_i left right e
          exact .list hcolon hcondition e (eq_append_of_bareTuple? e)
        · exact .kept hcolon hcondition ‹_›

/-- What becomes of a print statement; every other text is kept. -/
inductive PrintRepair (code : List Char) : List Char → Prop
  | call {gap value tail : List Char} : code = "print".toList ++ (gap ++ (value ++ tail)) →
      (∀ c ∈ gap, isBlank c = true) → (∀ c ∈ tail, isBlank c = true) →
      PrintRepair code ("print(".toList ++ value ++ ")".toList)
  | kept : PrintRepair code code

theorem callPrint_cases (code : List Char) : PrintRepair code (callPrint code) := by
  unfold callPrint
  split
  · exact .kept
  · split
    · rename_i value e
      simp only [printed?, Option.bind_eq_bind, Option.bind_eq_some_iff, Option.pure_def,
        Option.some.injEq] at e
      obtain ⟨rest, hrest, -, -, rfl⟩ := e
      have hcode : code = "print".toList ++ (rest.takeWhile isBlank ++
          (trimEnd (trimStart rest) ++ takeEndWhile isBlank (trimStart rest))) := by
        rw [trimEnd, dropEndWhile_append_takeEndWhile, trimStart,
          List.takeWhile_append_dropWhile]
        exact startsWith?_eq_some_iff.1 hrest
      exact .call hcode (fun _ => List.mem_takeWhile_imp) fun _ => eq_true_of_mem_takeEndWhile
    · exact .kept

/-! ## The characters of a repaired line -/

/-- The characters that the rules and the closing steps add. -/
def insertedChars : List Char :=
  [':', '=', ' ', 'N', 'o', 'n', 'e', '[', ']', '\'', '"', 'p', 'r', 'i', 't', '(', ')', '}']

theorem trimStart_subset (s : List Char) : trimStart s ⊆ s := (List.dropWhile_sublist _).subset

theorem trimEnd_subset (s : List Char) : trimEnd s ⊆ s := (dropEndWhile_isPrefix _ s).subset

theorem trim_subset (s : List Char) : trim s ⊆ s :=
  List.Subset.trans (trimEnd_subset _) (trimStart_subset s)

theorem subset_inserted {t : List Char} (h : t ⊆ insertedChars) : t ⊆ code ++ insertedChars :=
  List.subset_append_of_subset_right code h

theorem subset_kept {t : List Char} (h : t ⊆ code) : t ⊆ code ++ insertedChars :=
  List.subset_append_of_subset_left _ h

theorem repairStatement_subset : repairStatement code ⊆ code ++ insertedChars := by
  have repaired := repairStatement_cases code
  generalize repairStatement code = code' at repaired ⊢
  cases repaired with
  | colon =>
    exact List.append_subset.2 ⟨subset_kept (List.Subset.refl _), subset_inserted (by decide)⟩
  | @comparison left right _ _ hcode =>
    have hleft : left ⊆ code := by simp [hcode]
    have hright : right ⊆ code := by
      rw [hcode]
      exact List.subset_append_of_subset_right _ (List.subset_cons_self _ _)
    simp only [List.append_subset]
    exact ⟨⟨subset_kept hleft, subset_inserted (by decide)⟩, subset_kept hright⟩
  | nothing =>
    exact List.append_subset.2 ⟨subset_kept (List.Subset.refl _), subset_inserted (by decide)⟩
  | @list left right _ _ _ hcode =>
    have hleft : trimEnd left ⊆ code := by
      rw [hcode]
      exact List.subset_append_of_subset_left _ (trimEnd_subset left)
    have hright : trim right ⊆ code := by
      rw [hcode]
      exact List.subset_append_of_subset_right _ (List.subset_cons_of_subset _ (trim_subset right))
    simp only [List.append_subset]
    exact ⟨⟨⟨subset_kept hleft, subset_inserted (by decide)⟩, subset_kept hright⟩,
      subset_inserted (by decide)⟩
  | kept => exact subset_kept (List.Subset.refl _)

theorem closeQuote_subset : closeQuote code ⊆ code ++ insertedChars := by
  refine List.append_subset.2 ⟨subset_kept (List.Subset.refl _), subset_inserted ?_⟩
  intro c hc
  rcases eq_or_eq_of_mem_openQuote? (Option.mem_toList.1 hc) with rfl | rfl <;> decide

theorem callPrint_subset : callPrint code ⊆ code ++ insertedChars := by
  have repaired := callPrint_cases code
  generalize callPrint code = code' at repaired ⊢
  cases repaired with
  | @call gap value tail hcode =>
    have hvalue : value ⊆ code := by
      intro c hc
      rw [hcode]
      simp [hc]
    simp only [List.append_subset]
    exact ⟨⟨subset_inserted (by decide), subset_kept hvalue⟩, subset_inserted (by decide)⟩
  | kept => exact subset_kept (List.Subset.refl _)

theorem closeDelimiters_subset : closeDelimiters code ⊆ code ++ insertedChars := by
  have closing : [')', ']', '}'] ⊆ insertedChars := by decide
  exact List.append_subset.2
    ⟨subset_kept (List.Subset.refl _), subset_inserted fun c hc => closing (mem_closers hc)⟩

/-- One step after another adds no more than either. -/
theorem subset_append_trans {s t u : List Char} (h : t ⊆ s ++ insertedChars)
    (h' : u ⊆ t ++ insertedChars) : u ⊆ s ++ insertedChars :=
  List.Subset.trans h' (List.append_subset.2 ⟨h, List.subset_append_right _ _⟩)

theorem repairCode_subset : repairCode code ⊆ code ++ insertedChars := by
  have htrim : trimEnd code ⊆ code ++ insertedChars := subset_kept (trimEnd_subset code)
  have hstatement := subset_append_trans htrim repairStatement_subset
  have hquote := subset_append_trans hstatement closeQuote_subset
  have hprint := subset_append_trans hquote callPrint_subset
  exact subset_append_trans hprint closeDelimiters_subset

/-- A repair takes no character from anywhere but the line and its own stock. -/
theorem mem_repairLine {line : List Char} {c : Char} (h : c ∈ repairLine line) :
    c ∈ line ∨ c ∈ insertedChars := by
  have hbody := trimStart_subset line
  have hcut := splitComment_append (trimStart line)
  have hcode : (splitComment (trimStart line)).1 ⊆ line := by
    refine List.Subset.trans ?_ hbody
    conv_rhs => rw [← hcut]
    exact List.subset_append_left _ _
  have hcomment : (splitComment (trimStart line)).2 ⊆ line := by
    refine List.Subset.trans ?_ hbody
    conv_rhs => rw [← hcut]
    exact List.subset_append_right _ _
  simp only [repairLine, List.mem_append] at h
  rcases h with (h | h) | h
  · exact .inl ((List.takeWhile_sublist _).subset h)
  · exact (List.mem_append.1 (repairCode_subset h)).imp_left fun h => hcode h
  · exact .inl (hcomment h)

/-! ## The end of a repaired line -/

/-- The text ends in a character that is no white space. -/
def IsSolid (s : List Char) : Prop := ∃ c, s.getLast? = some c ∧ isBlank c = false

theorem IsSolid.append_left {s : List Char} (h : IsSolid s) (t : List Char) : IsSolid (t ++ s) := by
  obtain ⟨c, hc, hb⟩ := h
  exact ⟨c, by simp [List.getLast?_append, hc], hb⟩

theorem IsSolid.append_right {s t : List Char} (h : IsSolid s) (ht : ∀ c ∈ t, isBlank c = false) :
    IsSolid (s ++ t) := by
  cases e : t.getLast? with
  | none => simpa [List.getLast?_eq_none_iff.1 e] using h
  | some c => exact IsSolid.append_left ⟨c, e, ht c (List.mem_of_getLast? e)⟩ s

theorem isSolid_trimEnd {s : List Char} (h : trimEnd s ≠ []) : IsSolid (trimEnd s) := by
  obtain ⟨c, hc⟩ := Option.ne_none_iff_exists'.1 (mt List.getLast?_eq_none_iff.1 h)
  exact ⟨c, hc, eq_false_of_getLast?_dropEndWhile hc⟩

theorem IsSolid.repairStatement (h : IsSolid code) : IsSolid (repairStatement code) := by
  have repaired := repairStatement_cases code
  generalize Repair.repairStatement code = code' at repaired ⊢
  cases repaired with
  | colon => exact h.append_right (by simp [isBlank])
  | @comparison left right _ _ hcode =>
    subst hcode
    cases right with
    | nil =>
      rw [List.append_nil]
      exact IsSolid.append_left ⟨'=', by decide⟩ left
    | cons d right =>
      obtain ⟨c, hc, hb⟩ := h
      exact IsSolid.append_left ⟨c, by simpa [List.getLast?_cons_cons] using hc, hb⟩ _
  | nothing => exact IsSolid.append_left ⟨'e', by decide⟩ code
  | list => exact IsSolid.append_left ⟨']', by decide⟩ _
  | kept => exact h

theorem IsSolid.closeQuote (h : IsSolid code) : IsSolid (closeQuote code) := by
  apply h.append_right
  intro c hc
  rcases eq_or_eq_of_mem_openQuote? (Option.mem_toList.1 hc) with rfl | rfl <;> decide

theorem IsSolid.callPrint (h : IsSolid code) : IsSolid (callPrint code) := by
  have repaired := callPrint_cases code
  generalize Repair.callPrint code = code' at repaired ⊢
  cases repaired with
  | call => exact IsSolid.append_left ⟨')', by decide⟩ _
  | kept => exact h

theorem IsSolid.closeDelimiters (h : IsSolid code) : IsSolid (closeDelimiters code) := by
  apply h.append_right
  intro c hc
  have closing : ∀ d ∈ [')', ']', '}'], isBlank d = false := by simp [isBlank]
  exact closing c (mem_closers hc)

/-- The repaired code of a line ends in a visible character. -/
theorem isSolid_repairCode (h : trimEnd code ≠ []) : IsSolid (repairCode code) :=
  (isSolid_trimEnd h).repairStatement.closeQuote.callPrint.closeDelimiters

/-- A repair leaves the last character of a line or puts a visible one behind it. -/
theorem getLast?_repairLine (line : List Char) :
    (repairLine line).getLast? = line.getLast? ∨ IsSolid (repairLine line) := by
  have hline : line.takeWhile isBlank ++ trimStart line = line := List.takeWhile_append_dropWhile
  have hcut := splitComment_append (trimStart line)
  by_cases hcomment : (splitComment (trimStart line)).2 = []
  · rw [hcomment, List.append_nil] at hcut
    have e : repairLine line = line.takeWhile isBlank ++ repairCode (trimStart line) := by
      simp [repairLine, hcut, hcomment]
    cases hbody : trimStart line with
    | nil =>
      rw [hbody, List.append_nil] at hline
      have hnil : repairCode [] = [] := by decide
      exact .inl (by rw [e, hbody, hnil, List.append_nil, hline])
    | cons d body =>
      have hd : isBlank d = false := by
        have := List.head?_dropWhile_not isBlank line
        rwa [← trimStart, hbody] at this
      have hne : trimEnd (d :: body) ≠ [] := by
        rw [trimEnd, dropEndWhile_eq_rdropWhile, Ne, List.rdropWhile_eq_nil_iff]
        intro h
        simp [h d (by simp)] at hd
      rw [e, hbody]
      exact .inr ((isSolid_repairCode hne).append_left _)
  · left
    conv_rhs => rw [← hline, ← hcut]
    simp only [repairLine, List.getLast?_append, List.getLast?_eq_some_getLast hcomment,
      Option.some_or]

end ScriptPress.Repair
