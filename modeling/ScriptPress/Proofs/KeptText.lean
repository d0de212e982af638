import ScriptPress.Proofs.RepairScan

/-!
# Text that a repair keeps

A repair inserts characters and moves white space. The visible characters of the line stay, in their
order, and so do its indentation and its comment.

## Main definitions

* `visible` — the characters of a text other than white space.

## Main statements

* `visible_repairStatement`, `visible_closeQuote`, `visible_callPrint`, `visible_closeDelimiters` —
  no step drops a visible character.
* `repairLine_keeps` — nor does a repair, and it leaves both ends of the line alone.
-/

namespace ScriptPress.Repair

open Text Script

variable {code : List Char}

def visible (s : List Char) : List Char := s.filter fun c => !isBlank c

@[simp] theorem visible_append (s t : List Char) :
    visible (s ++ t) = visible s ++ visible t := List.filter_append ..

theorem visible_of_isBlank {s : List Char} (h : ∀ c ∈ s, isBlank c = true) :
    visible s = [] := by
  rw [visible, List.filter_eq_nil_iff]
  intro c hc
  simp [h c hc]

@[simp] theorem visible_trimEnd (s : List Char) : visible (trimEnd s) = visible s := by
  have hblank : visible (takeEndWhile isBlank s) = [] :=
    visible_of_isBlank fun _ => eq_true_of_mem_takeEndWhile
  conv_rhs => rw [← trimEnd_append_takeEndWhile s, visible_append, hblank, List.append_nil]

@[simp] theorem visible_trimStart (s : List Char) :
    visible (trimStart s) = visible s := by
  have hblank : visible (s.takeWhile isBlank) = [] :=
    visible_of_isBlank fun _ => List.mem_takeWhile_imp
  conv_rhs => rw [← takeWhile_append_trimStart s, visible_append, hblank, List.nil_append]

@[simp] theorem visible_trim (s : List Char) : visible (trim s) = visible s := by
  rw [trim, visible_trimEnd, visible_trimStart]

theorem mem_of_visible_sublist {s t : List Char} (h : (visible s).Sublist (visible t)) {c : Char}
    (hc : isBlank c = false) (hs : c ∈ s) : c ∈ t :=
  (List.mem_filter.1 (h.subset (List.mem_filter.2 ⟨hs, by simp [hc]⟩))).1

/-! ## Step by step -/

theorem visible_repairStatement (code : List Char) :
    (visible code).Sublist (visible (repairStatement code)) := by
  have repaired := repairStatement_cases code
  generalize repairStatement code = code' at repaired ⊢
  cases repaired with
  | colon => exact visible_append code _ ▸ List.sublist_append_left ..
  | @comparison left right _ _ hcut =>
    have hsigns : (left ++ '=' :: right).Sublist (left ++ "==".toList ++ right) := by
      rw [List.append_assoc]
      exact (List.Sublist.refl left).append (List.sublist_cons_self '=' _)
    exact hcut ▸ hsigns.filter _
  | nothing => exact visible_append code _ ▸ List.sublist_append_left ..
  | @list left right _ _ _ hcut =>
    have hsign : visible ['='] = visible " = ".toList := by decide
    have hcode : visible code = visible (trimEnd left ++ " = ".toList ++ trim right) := by
      rw [hcut, ← List.singleton_append]
      simp only [visible_append, visible_trimEnd, visible_trim, hsign, List.append_assoc]
    have hbrackets : (trimEnd left ++ " = ".toList ++ trim right).Sublist
        (trimEnd left ++ " = [".toList ++ trim right ++ "]".toList) := by
      refine List.Sublist.trans ?_ (List.sublist_append_left _ _)
      exact ((List.Sublist.refl _).append (by decide)).append (List.Sublist.refl _)
    exact hcode ▸ hbrackets.filter _
  | kept => exact List.Sublist.refl _

theorem visible_closeQuote (code : List Char) :
    (visible code).Sublist (visible (closeQuote code)) :=
  visible_append code _ ▸ List.sublist_append_left ..

theorem visible_callPrint (code : List Char) :
    (visible code).Sublist (visible (callPrint code)) := by
  have repaired := callPrint_cases code
  generalize callPrint code = code' at repaired ⊢
  cases repaired with
  | @call gap value tail hcode hgap htail =>
    have hcode' : visible code = visible ("print".toList ++ value) := by
      rw [hcode]
      simp only [visible_append, visible_of_isBlank hgap, visible_of_isBlank htail,
        List.nil_append, List.append_nil]
    have hparens : ("print".toList ++ value).Sublist
        ("print(".toList ++ value ++ ")".toList) := by
      refine List.Sublist.trans ?_ (List.sublist_append_left _ _)
      exact List.Sublist.append (by decide) (List.Sublist.refl value)
    exact hcode' ▸ hparens.filter _
  | kept => exact List.Sublist.refl _

theorem visible_closeDelimiters (code : List Char) :
    (visible code).Sublist (visible (closeDelimiters code)) :=
  visible_append code _ ▸ List.sublist_append_left ..

theorem visible_repairCode (code : List Char) :
    (visible code).Sublist (visible (repairCode code)) := by
  rw [← visible_trimEnd code]
  exact (visible_repairStatement _).trans <| (visible_closeQuote _).trans <|
    (visible_callPrint _).trans (visible_closeDelimiters _)

/-! ## Whole lines -/

/-- A repair drops no visible character and keeps the order of them; the line begins with its
indentation and ends in its comment as before. -/
theorem repairLine_keeps (line : List Char) :
    (visible line).Sublist (visible (repairLine line)) ∧
      line.takeWhile isBlank <+: repairLine line ∧
      (splitComment line).2 <:+ repairLine line := by
  have hbody : (visible (trimStart line)).Sublist
      (visible (repairCode (splitComment (trimStart line)).1 ++
        (splitComment (trimStart line)).2)) := by
    conv_lhs => rw [← splitComment_append (trimStart line)]
    rw [visible_append, visible_append]
    exact (visible_repairCode _).append (List.Sublist.refl _)
  refine ⟨?_, ?_, ?_⟩
  · rw [← takeWhile_append_trimStart line, visible_append, takeWhile_append_trimStart, repairLine,
      List.append_assoc, visible_append]
    exact (List.Sublist.refl _).append hbody
  · rw [repairLine, List.append_assoc]
    exact List.prefix_append _ _
  · conv_rhs => rw [← splitComment_append line]
    rw [repairLine_append (isCut_splitComment line)]
    exact List.suffix_append _ _

end ScriptPress.Repair
