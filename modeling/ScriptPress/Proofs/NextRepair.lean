import ScriptPress.Proofs.CharClass
import ScriptPress.Proofs.HeaderColon
import ScriptPress.Proofs.KeptText

/-!
# The code that the next repair finds

A repaired line may be repaired again. The next repair finds code without a comment and with visible
characters at both ends, a header where there was one; no backslash reaches beyond its end, so it
is closed at last.

## Main definitions

* `IsClosed` — the code leaves neither a literal nor a delimiter open.
* `IsBare` — code without a comment, with visible characters at both ends.
* `nextCode` — the code that the next repair of the line finds.

## Main statements

* `assignments_comparison` — a comparison in place of the only assignment sign leaves none.
* `IsBare.takesNext_nextCode`, `IsBare.isClosed_nextCode` — what repaired code leaves open.
* `blockKeyword?_nextCode` — a repair neither makes a header nor unmakes one.
-/

namespace ScriptPress.Script

open Text

/-! ## Words and white space -/

theorem firstWord_append (s : List Char) {t : List Char} (ht : ∀ c ∈ t.head?, isWord c = false) :
    firstWord (s ++ t) = firstWord s := by
  have hnone : t.takeWhile isWord = [] := by
    cases t with
    | nil => rfl
    | cons c t => exact List.takeWhile_cons_of_neg (by simp [ht c rfl])
  rw [firstWord, List.takeWhile_append, hnone, List.append_nil]
  split
  · rename_i hall
    exact ((List.takeWhile_prefix isWord).eq_of_length hall).symm
  · rfl

/-- What follows a header without continuing its last word leaves it the header that it is. -/
theorem blockKeyword?_append {s t : List Char} (hs : trimStart s ≠ [])
    (ht : ∀ c ∈ t.head?, isWord c = false) : blockKeyword? (s ++ t) = blockKeyword? s := by
  rw [blockKeyword?, (Repair.takeWhile_and_trimStart_append hs t).2, firstWord_append _ ht,
    blockKeyword?]

@[simp] theorem blockKeyword?_trimStart (s : List Char) :
    blockKeyword? (trimStart s) = blockKeyword? s := by
  rw [blockKeyword?, trimStart_trimStart, blockKeyword?]

/-- White space behind a header says nothing about it. -/
theorem blockKeyword?_append_of_isBlank (s : List Char) {t : List Char}
    (ht : ∀ c ∈ t, isBlank c = true) : blockKeyword? (s ++ t) = blockKeyword? s := by
  by_cases hs : trimStart s = []
  · have hblank : trimStart (s ++ t) = [] := by
      rw [trimStart, List.dropWhile_append_of_pos (List.dropWhile_eq_nil_iff.1 hs)]
      exact List.dropWhile_eq_nil_iff.2 ht
    rw [blockKeyword?, blockKeyword?, hs, hblank]
  · exact blockKeyword?_append hs fun c hc => isWord_of_isBlank (ht c (List.mem_of_head? hc))

/-- Nor does what follows a sign that belongs to no word. -/
theorem blockKeyword?_append_cons (s : List Char) {c : Char} (hc : isWord c = false)
    (hvisible : isBlank c = false) (t : List Char) :
    blockKeyword? (s ++ c :: t) = blockKeyword? s := by
  by_cases hs : trimStart s = []
  · have hstart : trimStart (s ++ c :: t) = c :: t := by
      rw [trimStart, List.dropWhile_append_of_pos (List.dropWhile_eq_nil_iff.1 hs)]
      exact List.dropWhile_cons_of_neg (by simp [hvisible])
    have hword : firstWord (c :: t) = firstWord [] := List.takeWhile_cons_of_neg (by simp [hc])
    rw [blockKeyword?, blockKeyword?, hs, hstart, hword]
  · exact blockKeyword?_append hs (by simpa using hc)

@[simp] theorem blockKeyword?_trimEnd (s : List Char) :
    blockKeyword? (trimEnd s) = blockKeyword? s := by
  conv_rhs => rw [← trimEnd_append_takeEndWhile s]
  rw [blockKeyword?_append_of_isBlank _ fun _ => eq_true_of_mem_takeEndWhile]

/-! ## Comparisons -/

/-- A sign with another one behind it does not assign. -/
theorem isPlainAssignment_before_sign (before : Option Char) (rest : List Char) :
    isPlainAssignment before ('=' :: rest) = false := by
  simp [isPlainAssignment]

/-- A sign with another one in front of it does not assign. -/
theorem isPlainAssignment_behind_sign (rest : List Char) :
    isPlainAssignment (some '=') rest = false := by
  have hsign : '=' ∈ operatorChars := by decide
  simp [isPlainAssignment, hsign]

/-- Where a line has one assignment sign, the comparison in its place leaves it none. -/
theorem assignments_comparison {left right : List Char}
    (h : assignments (left ++ '=' :: right) = [(left, right)]) :
    assignments (left ++ '=' :: '=' :: right) = [] := by
  have only : ∀ l r, left ++ '=' :: right = l ++ '=' :: r →
      isPlainAssignment (l.getLast?.or none) r = true → l = left := by
    intro l r hcut hplain
    have hmem : (l, r) ∈ assignments (left ++ '=' :: right) :=
      mem_assignmentsFrom_iff.2 ⟨hcut, hplain⟩
    rw [h, List.mem_singleton] at hmem
    exact (Prod.mk.inj hmem).1
  rw [List.eq_nil_iff_forall_not_mem]
  rintro ⟨l, r⟩ hmem
  obtain ⟨hcut, hplain⟩ := mem_assignmentsFrom_iff.1 hmem
  rcases List.append_eq_append_iff.1 hcut with ⟨m, rfl, hm⟩ | ⟨m, rfl, hm⟩
  · rcases m with _ | ⟨c, _ | ⟨d, m⟩⟩ <;>
      simp only [List.nil_append, List.cons_append, List.cons.injEq] at hm
    · rw [← hm.2, isPlainAssignment_before_sign] at hplain
      contradiction
    · rw [← hm.1, List.getLast?_append, List.getLast?_singleton, Option.some_or, Option.some_or,
        isPlainAssignment_behind_sign] at hplain
      contradiction
    · have hlast : (left ++ c :: d :: m).getLast?.or none = (left ++ d :: m).getLast?.or none := by
        rw [List.getLast?_append_cons, List.getLast?_append_cons, List.getLast?_cons_cons]
      have hl := only (left ++ d :: m) r (by simp [hm.2.2, ← hm.2.1]) (hlast ▸ hplain)
      simp at hl
  · rcases m with _ | ⟨c, m⟩ <;>
      simp only [List.nil_append, List.cons_append, List.cons.injEq] at hm
    · rw [hm.2, isPlainAssignment_before_sign] at hplain
      contradiction
    · have hhead : (m ++ '=' :: right).head? = (m ++ '=' :: '=' :: right).head? := by
        cases m <;> rfl
      rw [hm.2, isPlainAssignment, ← hhead, ← isPlainAssignment] at hplain
      have hl := only l (m ++ '=' :: right) (by simp [← hm.1]) hplain
      simp at hl
/-! ## Closed code -/

/-- The code leaves neither a literal nor a delimiter open. -/
structure IsClosed (code : List Char) : Prop where
  quote : openQuote? code = none
  owed : closers code = []

variable {code : List Char}

theorem isClosed_iff : IsClosed code ↔ scanNesting .start code = .start := by
  have hquote : openQuote? code = none ↔ (scanNesting .start code).quote = .outside := by
    rw [openQuote?_eq_mark?, QuoteState.mark?_eq_none_iff]
  constructor
  · rintro ⟨hnone, howed⟩
    exact congrArg₂ Nesting.mk (hquote.1 hnone) howed
  · intro h
    exact ⟨hquote.2 (congrArg Nesting.quote h), congrArg Nesting.owed h⟩

/-- Closing delimiters pay what is owed. -/
theorem scanNesting_owed {owed : List Char} (h : ∀ c ∈ owed, c ∈ [')', ']', '}']) :
    scanNesting ⟨.outside, owed⟩ owed = .start := by
  induction owed with
  | nil => rfl
  | cons c owed ih =>
    obtain ⟨hc, howed⟩ := List.forall_mem_cons.1 h
    have closing : ∀ d ∈ [')', ']', '}'], closerOf? d = none ∧ isQuote d = false := by
      simp [closerOf?, isQuote]
    obtain ⟨hnone, hquote⟩ := closing c hc
    have hstep : Nesting.step ⟨.outside, c :: owed⟩ c = ⟨.outside, owed⟩ := by
      simp [Nesting.step, Nesting.owedAfter, QuoteState.step, hnone, hquote]
    rw [scanNesting, List.foldl_cons, hstep, ← scanNesting, ih howed]

/-- Behind code without an open literal, closed delimiters leave nothing open. -/
theorem isClosed_closeDelimiters (h : openQuote? code = none) :
    IsClosed (Repair.closeDelimiters code) := by
  have hstate : scanNesting .start code = ⟨.outside, closers code⟩ := by
    have hquote : (scanNesting .start code).quote = .outside := by
      rw [quote_scanNesting]
      exact QuoteState.mark?_eq_none_iff.1 h
    rw [← hquote, closers]
  rw [isClosed_iff, Repair.closeDelimiters, scanNesting_append, hstate,
    scanNesting_owed fun _ => Repair.mem_closers]

end ScriptPress.Script

namespace ScriptPress.Repair

open Text Script QuoteState

variable {code : List Char}

/-! ## Code that a repair finds -/

theorem IsSolid.trimEnd_eq (h : IsSolid code) : trimEnd code = code := by
  obtain ⟨c, hc, hvisible⟩ := h
  have hend : ∀ d ∈ code.getLast?, isBlank d = false := by
    intro d hd
    obtain rfl : c = d := by simpa [hc] using hd
    exact hvisible
  have hcut := dropEndWhile_append_of_getLast? (List.forall_mem_nil _) hend
  rwa [List.append_nil] at hcut

theorem IsSolid.getLast?_trimStart (h : IsSolid code) :
    (trimStart code).getLast? = code.getLast? := by
  obtain ⟨c, hc, hvisible⟩ := h
  have hparts := takeWhile_append_trimStart code
  cases hlast : (trimStart code).getLast? with
  | some d => rw [← hparts, List.getLast?_append, hlast, Option.some_or]
  | none =>
    rw [List.getLast?_eq_none_iff.1 hlast, List.append_nil] at hparts
    have hblank := List.mem_takeWhile_imp (hparts.symm ▸ List.mem_of_getLast? hc)
    simp [hblank] at hvisible

theorem IsSolid.trimStart (h : IsSolid code) : IsSolid (trimStart code) := by
  obtain ⟨c, hc, hvisible⟩ := h
  exact ⟨c, by rw [IsSolid.getLast?_trimStart ⟨c, hc, hvisible⟩, hc], hvisible⟩

theorem IsSolid.trimStart_ne_nil (h : IsSolid code) : Text.trimStart code ≠ [] := by
  obtain ⟨c, hc, -⟩ := h.trimStart
  rintro e
  simp [e] at hc

/-- Code without a comment, with visible characters at both its ends. -/
structure IsBare (code : List Char) : Prop where
  passes : ∃ r, Passes .outside code r
  front : trimStart code = code
  solid : IsSolid code

def nextCode (code : List Char) : List Char := trimStart (repairCode code)

namespace IsBare

theorem repairCode_eq (h : IsBare code) :
    repairCode code = closeDelimiters (callPrint (closeQuote (repairStatement code))) := by
  rw [repairCode, h.solid.trimEnd_eq]

theorem solid_repairCode (h : IsBare code) : IsSolid (repairCode code) := by
  apply isSolid_repairCode
  rw [h.solid.trimEnd_eq]
  rintro rfl
  exact h.solid.trimStart_ne_nil rfl

theorem passes_repairCode (h : IsBare code) :
    Passes .outside (repairCode code)
      (if repairStatement code = code then scanQuotes .outside code
        else (scanQuotes .outside code).settle).close := by
  obtain ⟨r, hr⟩ := h.passes
  have hpass := Repair.passes_repairCode (h.solid.trimEnd_eq.symm ▸ hr)
  rwa [h.solid.trimEnd_eq, ← hr.scanQuotes_eq] at hpass

protected theorem nextCode (h : IsBare code) : IsBare (nextCode code) where
  passes := ⟨_, h.passes_repairCode.trimStart isProper_outside rfl⟩
  front := trimStart_trimStart _
  solid := h.solid_repairCode.trimStart

theorem scanQuotes_nextCode (h : IsBare code) :
    scanQuotes .outside (Repair.nextCode code) =
      (if repairStatement code = code then scanQuotes .outside code
        else (scanQuotes .outside code).settle).close :=
  (h.passes_repairCode.trimStart isProper_outside rfl).scanQuotes_eq

/-- In repaired code no backslash reaches beyond the end. -/
theorem takesNext_nextCode (h : IsBare code) :
    (scanQuotes .outside (Repair.nextCode code)).takesNext = false := by
  rw [h.scanQuotes_nextCode, ← settle_close, takesNext_settle]

/-- Repaired code is closed, unless a backslash takes along the mark that would close it. -/
theorem isClosed_nextCode (h : IsBare code)
    (hnext : repairStatement code = code → (scanQuotes .outside code).takesNext = false) :
    IsClosed (Repair.nextCode code) := by
  obtain ⟨r, hr⟩ := h.passes
  have hout : (if repairStatement code = code then r else r.settle).close = .outside := by
    rw [close_eq_outside_iff]
    split
    · rename_i e
      rw [← hr.scanQuotes_eq, hnext e]
    · rw [takesNext_settle]
  have hpass := passes_callPrint (passes_closeQuote (passes_repairStatement hr)) (settle_close _)
  rw [hout] at hpass
  rw [isClosed_iff, Repair.nextCode, scanNesting_start_trimStart, h.repairCode_eq, ← isClosed_iff]
  exact isClosed_closeDelimiters (QuoteState.mark?_eq_none_iff.2 hpass.scanQuotes_eq)

/-- Where the rules close nothing that was closed, the rule is all that a repair does, but for the
call in place of a print statement. -/
theorem repairCode_of_isClosed (h : IsBare code) (hclosed : IsClosed (repairStatement code))
    (hprint : callPrint (repairStatement code) = repairStatement code) :
    repairCode code = repairStatement code := by
  rw [h.repairCode_eq, closeQuote, hclosed.quote, Option.toList_none, List.append_nil, hprint,
    closeDelimiters, hclosed.owed, List.append_nil]

end IsBare

/-! ## Headers stay headers -/

theorem isWord_of_mem_marks : ∀ c ∈ ['\'', '"', ')', ']', '}'],
    isWord c = false ∧ isBlank c = false := by
  simp [isWord, isBlank]

theorem blockKeyword?_closeQuote (code : List Char) :
    blockKeyword? (closeQuote code) = blockKeyword? code := by
  rw [closeQuote]
  cases hmark : openQuote? code with
  | none => rw [Option.toList_none, List.append_nil]
  | some c =>
    obtain ⟨hword, hvisible⟩ := isWord_of_mem_marks c (by
      rcases eq_or_eq_of_mem_openQuote? hmark with rfl | rfl <;> simp)
    exact blockKeyword?_append_cons code hword hvisible []

theorem blockKeyword?_closeDelimiters (code : List Char) :
    blockKeyword? (closeDelimiters code) = blockKeyword? code := by
  rw [closeDelimiters]
  cases howed : closers code with
  | nil => rw [List.append_nil]
  | cons c owed =>
    obtain ⟨hword, hvisible⟩ := isWord_of_mem_marks c (by
      have hc : c ∈ [')', ']', '}'] := mem_closers (howed ▸ List.mem_cons_self)
      simp_all)
    exact blockKeyword?_append_cons code hword hvisible owed

theorem head?_ne_of_blockKeyword? (h : (blockKeyword? code).isSome = true)
    (hfront : trimStart code = code) : code.head? ≠ some 'p' := by
  obtain ⟨c, s, rfl, hc⟩ := exists_head_of_blockKeyword? h hfront
  rintro e
  obtain rfl := Option.some.inj e
  exact absurd hc (by decide)

theorem blockKeyword?_callPrint (code : List Char) :
    blockKeyword? (callPrint code) = blockKeyword? code := by
  have printed : ∀ s, blockKeyword? ("print".toList ++ s) = none := by
    intro s
    by_contra h
    refine head?_ne_of_blockKeyword? (Option.ne_none_iff_isSome.1 h) ?_ rfl
    exact List.dropWhile_cons_of_neg (by decide)
  have repaired := callPrint_cases code
  generalize callPrint code = code' at repaired ⊢
  cases repaired with
  | @call gap value tail hcode =>
    have hcall : "print(".toList ++ value ++ ")".toList =
        "print".toList ++ ('(' :: value ++ ")".toList) := by simp
    rw [hcode, hcall, printed, printed]
  | kept => rfl

theorem blockKeyword?_repairStatement (h : IsSolid code) :
    blockKeyword? (repairStatement code) = blockKeyword? code := by
  have signs : ∀ c ∈ [':', '=', ' '], isWord c = false := by simp [isWord]
  have sign : ∀ s t : List Char, blockKeyword? (s ++ '=' :: t) = blockKeyword? s := fun s t =>
    blockKeyword?_append_cons s (signs '=' (by simp)) (by decide) t
  have repaired := repairStatement_cases code
  generalize repairStatement code = code' at repaired ⊢
  cases repaired with
  | colon => exact blockKeyword?_append_cons code (signs ':' (by simp)) (by decide) []
  | @comparison left right _ _ hcut =>
    have hsigns : left ++ "==".toList ++ right = left ++ '=' :: '=' :: right := by simp
    rw [hsigns, hcut, sign, sign]
  | nothing => exact blockKeyword?_append h.trimStart_ne_nil (by simpa using signs ' ' (by simp))
  | @list left right _ _ _ hcut =>
    have hsigns : trimEnd left ++ " = [".toList ++ trim right ++ "]".toList =
        trimEnd left ++ " ".toList ++ '=' :: (" [".toList ++ trim right ++ "]".toList) := by simp
    rw [hsigns, hcut, sign, sign, blockKeyword?_append_of_isBlank _ (by simp [isBlank]),
      blockKeyword?_trimEnd]
  | kept => rfl

/-- A repair neither makes a header nor unmakes one. -/
theorem blockKeyword?_nextCode (h : IsBare code) :
    blockKeyword? (nextCode code) = blockKeyword? code := by
  rw [nextCode, blockKeyword?_trimStart, h.repairCode_eq, blockKeyword?_closeDelimiters,
    blockKeyword?_callPrint, blockKeyword?_closeQuote, blockKeyword?_repairStatement h.solid]

end ScriptPress.Repair
