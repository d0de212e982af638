import ScriptPress.Proofs.RepairedLine

/-!
# Repairs of single lines

A fix changes the content of one raw line. It neither makes nor removes a line, no ending changes,
and a series of fixes leaves every line alone that none of them names; fixes of two lines can be
made in either order.

## Main definitions

* `ending` — the line feeds and carriage returns at the end of a raw line.
* `mendLine` — the script with line `n` repaired, where there is anything to repair.
* `KeepsOthers` — two scripts differ in the content of the named lines only.

## Main statements

* `rawLines_mend` — a fix changes one raw line.
* `keepsOthers_mendLine`, `keepsOthers_foldl` — one fix, and a series of them.
* `mendLines_local` — what fixes change, when there is none, and that they commute.
-/

namespace ScriptPress.Repair

open Text

/-! ## One raw line -/

/-- The line feeds and carriage returns at the end of a raw line. -/
def ending (raw : List Char) : List Char := takeEndWhile isEnding raw

def mendRaw (raw : List Char) : List Char := (repairRawLine? raw).getD raw

theorem newline_not_mem_repairLine {line : List Char} (h : '\n' ∉ line) :
    '\n' ∉ repairLine line := by
  intro hm
  rcases mem_repairLine hm with hm | hm
  · exact h hm
  · exact absurd hm (by decide)

/-- A repaired content does not end in a line feed or a carriage return. -/
theorem isEnding_getLast?_repairLine {raw : List Char} :
    ∀ c ∈ (repairLine (dropEndWhile isEnding raw)).getLast?, isEnding c = false := by
  intro c hc
  rcases getLast?_repairLine (dropEndWhile isEnding raw) with h | ⟨d, hd, hb⟩
  · exact eq_false_of_getLast?_dropEndWhile (h ▸ hc)
  · obtain rfl : d = c := by simpa [hd] using hc
    cases he : isEnding d with
    | false => rfl
    | true => simp [isBlank_of_isEnding he] at hb

theorem repairRawLine?_eq_some_iff {raw raw' : List Char} :
    repairRawLine? raw = some raw' ↔
      trimEnd (repairLine (dropEndWhile isEnding raw)) ≠ trimEnd (dropEndWhile isEnding raw) ∧
        raw' = repairLine (dropEndWhile isEnding raw) ++ ending raw := by
  unfold repairRawLine? ending
  by_cases h : trimEnd (repairLine (dropEndWhile isEnding raw)) =
      trimEnd (dropEndWhile isEnding raw)
  · simp [h]
  · simpa [h] using eq_comm

theorem repairRawLine?_eq_none_iff {raw : List Char} :
    repairRawLine? raw = none ↔
      trimEnd (repairLine (dropEndWhile isEnding raw)) = trimEnd (dropEndWhile isEnding raw) := by
  simp [repairRawLine?]

/-- A repair keeps the line's ending. -/
@[simp] theorem ending_mendRaw (raw : List Char) : ending (mendRaw raw) = ending raw := by
  unfold mendRaw
  cases h : repairRawLine? raw with
  | none => rfl
  | some raw' =>
    obtain ⟨-, rfl⟩ := repairRawLine?_eq_some_iff.1 h
    exact takeEndWhile_append_of_getLast? (fun c => eq_true_of_mem_takeEndWhile)
      isEnding_getLast?_repairLine

theorem mendRaw_last {body : List Char} (hne : body ≠ []) (h : '\n' ∉ body) :
    mendRaw body ≠ [] ∧ '\n' ∉ mendRaw body := by
  unfold mendRaw
  cases hr : repairRawLine? body with
  | none => exact ⟨hne, h⟩
  | some raw' =>
    obtain ⟨-, rfl⟩ := repairRawLine?_eq_some_iff.1 hr
    have hcontent : '\n' ∉ dropEndWhile isEnding body := fun hm => h (mem_of_mem_dropEndWhile hm)
    have hending : '\n' ∉ ending body := fun hm =>
      h (dropEndWhile_append_takeEndWhile isEnding body ▸ List.mem_append_right _ hm)
    constructor
    · -- an emptied line would have been empty, since a repair leaves its last character
      intro e
      obtain ⟨hnil, hend⟩ := List.append_eq_nil_iff.1 e
      have hbody : dropEndWhile isEnding body = body := by
        rw [ending] at hend
        simpa [hend] using dropEndWhile_append_takeEndWhile isEnding body
      rcases getLast?_repairLine (dropEndWhile isEnding body) with hlast | ⟨d, hd, -⟩
      · rw [hnil, hbody] at hlast
        exact hne (List.getLast?_eq_none_iff.1 hlast.symm)
      · simp [hnil] at hd
    · exact List.not_mem_append (newline_not_mem_repairLine hcontent) hending

theorem mendRaw_append_newline {body : List Char} (h : '\n' ∉ body) :
    ∃ body', '\n' ∉ body' ∧ mendRaw (body ++ ['\n']) = body' ++ ['\n'] := by
  unfold mendRaw
  cases hr : repairRawLine? (body ++ ['\n']) with
  | none => exact ⟨body, h, rfl⟩
  | some raw' =>
    obtain ⟨-, rfl⟩ := repairRawLine?_eq_some_iff.1 hr
    have hcontent : dropEndWhile isEnding (body ++ ['\n']) = dropEndWhile isEnding body := by
      simp only [dropEndWhile_eq_rdropWhile]
      exact List.rdropWhile_concat_pos _ _ _ (by decide)
    have hending : ending (body ++ ['\n']) = takeEndWhile isEnding body ++ ['\n'] := by
      simp only [ending, takeEndWhile_eq_rtakeWhile]
      exact List.rtakeWhile_concat_pos _ _ _ (by decide)
    refine ⟨repairLine (dropEndWhile isEnding body) ++ takeEndWhile isEnding body, ?_, ?_⟩
    · refine List.not_mem_append (newline_not_mem_repairLine fun hm => ?_) fun hm => ?_
      · exact h (mem_of_mem_dropEndWhile hm)
      · exact h (dropEndWhile_append_takeEndWhile isEnding body ▸ List.mem_append_right _ hm)
    · rw [Option.getD_some, hcontent, hending, List.append_assoc]

/-! ## One fix -/

/-- The list with `f` applied to element `n`, counted from 1; number 0 names none. -/
def modifyNumbered {α : Type} (f : α → α) (l : List α) : (n : Nat) → List α
  | 0 => l
  | n + 1 => l.modify n f

theorem modifyNumbered_comm {α : Type} (f : α → α) (l : List α) {i j : Nat} (h : i ≠ j) :
    modifyNumbered f (modifyNumbered f l i) j = modifyNumbered f (modifyNumbered f l j) i := by
  cases i with
  | zero => rfl
  | succ i =>
    cases j with
    | zero => rfl
    | succ j => exact List.modify_modify_ne f f l (by omega)

theorem numbered?_modifyNumbered {α : Type} (f : α → α) (l : List α) (n m : Nat) :
    numbered? (modifyNumbered f l n) m =
      if n = m then (numbered? l m).map f else numbered? l m := by
  cases n <;> cases m <;> grind [modifyNumbered, numbered?]

theorem map_modifyNumbered {α β : Type} {f : α → α} {g : α → β} (hg : ∀ a, g (f a) = g a)
    (l : List α) (n : Nat) : (modifyNumbered f l n).map g = l.map g := by
  cases n with
  | zero => rfl
  | succ n =>
    apply List.ext_getElem?
    intro m
    simp only [modifyNumbered, List.getElem?_map, List.getElem?_modify]
    cases l[m]? <;> simp [apply_ite g, hg]

theorem numbered?_map {α β : Type} (g : α → β) (l : List α) (n : Nat) :
    numbered? (l.map g) n = (numbered? l n).map g := by
  cases n <;> simp [numbered?]

/-- The script with line `n` repaired, or as it is where there is nothing to repair. -/
def mend (code : List Char) (n : Nat) : List Char := (proposal? code n).getD code

theorem mend_eq_flatten (code : List Char) (n : Nat) :
    mend code n = (modifyNumbered mendRaw (rawLines code) n).flatten := by
  unfold mend proposal?
  cases n with
  | zero => simp [numbered?, modifyNumbered]
  | succ n =>
    cases hraw : (rawLines code)[n]? with
    | none =>
      have hn := List.getElem?_eq_none_iff.1 hraw
      simp [numbered?, hraw, modifyNumbered, List.modify_eq_self hn]
    | some raw =>
      have hmod : (rawLines code).modify n mendRaw = (rawLines code).set n (mendRaw raw) := by
        simp [List.modify_eq_set, hraw]
      cases hr : repairRawLine? raw with
      | none =>
        have hset : (rawLines code).set n raw = rawLines code := by
          obtain ⟨hn, rfl⟩ := List.getElem?_eq_some_iff.1 hraw
          exact List.set_getElem_self hn
        simp [numbered?, hraw, hr, modifyNumbered, hmod, mendRaw, hset]
      | some raw' => simp [numbered?, hraw, hr, modifyNumbered, hmod, mendRaw]

/-- A fix changes one raw line and no cut between raw lines. -/
theorem rawLines_mend (code : List Char) (n : Nat) :
    rawLines (mend code n) = modifyNumbered mendRaw (rawLines code) n := by
  rw [mend_eq_flatten]
  apply IsRawLines.rawLines_flatten
  cases n with
  | zero => exact isRawLines_rawLines code
  | succ n =>
    exact (isRawLines_rawLines code).modify (fun _ => mendRaw_last)
      (fun _ => mendRaw_append_newline) n

theorem mend_comm (code : List Char) {i j : Nat} (h : i ≠ j) :
    mend (mend code i) j = mend (mend code j) i := by
  simp only [mend_eq_flatten (mend code _), rawLines_mend, modifyNumbered_comm mendRaw _ h]

/-! ## Fixes of a script -/

def mendLine (code : String) (n : Nat) : String := (propose? code n).getD code

theorem toList_mendLine (code : String) (n : Nat) :
    (mendLine code n).toList = mend code.toList n := by
  unfold mendLine propose? mend
  cases proposal? code.toList n <;> simp

/-- The scripts have the same number of lines with the same endings, and differ in lines that `ns`
names only. -/
structure KeepsOthers (ns : List Nat) (code code' : List Char) : Prop where
  length : (rawLines code').length = (rawLines code).length
  endings : (rawLines code').map ending = (rawLines code).map ending
  others : ∀ n ∉ ns, numbered? (rawLines code') n = numbered? (rawLines code) n

namespace KeepsOthers

variable {ns ms : List Nat} {code code' code'' : List Char}

theorem refl : KeepsOthers ns code code := ⟨rfl, rfl, fun _ _ => rfl⟩

theorem trans (h : KeepsOthers ns code code') (h' : KeepsOthers ns code' code'') :
    KeepsOthers ns code code'' where
  length := h'.length.trans h.length
  endings := h'.endings.trans h.endings
  others n hn := (h'.others n hn).trans (h.others n hn)

theorem mono (h : KeepsOthers ns code code') (hm : ns ⊆ ms) : KeepsOthers ms code code' where
  length := h.length
  endings := h.endings
  others n hn := h.others n fun hn' => hn (hm hn')

end KeepsOthers

theorem keepsOthers_mendLine (code : String) (n : Nat) :
    KeepsOthers [n] code.toList (mendLine code n).toList := by
  have hends : (rawLines (mendLine code n).toList).map ending =
      (rawLines code.toList).map ending := by
    rw [toList_mendLine, rawLines_mend]
    exact map_modifyNumbered ending_mendRaw _ n
  refine ⟨by simpa using congrArg List.length hends, hends, fun m hm => ?_⟩
  rw [toList_mendLine, rawLines_mend, numbered?_modifyNumbered, if_neg (by simpa [eq_comm] using hm)]

/-- A series of fixes changes the lines that it names and no others. -/
theorem keepsOthers_foldl (code : String) (ns : List Nat) :
    KeepsOthers ns code.toList (ns.foldl mendLine code).toList := by
  induction ns generalizing code with
  | nil => exact .refl
  | cons n ns ih =>
    have hstep : KeepsOthers (n :: ns) code.toList (mendLine code n).toList :=
      (keepsOthers_mendLine code n).mono (by simp)
    exact hstep.trans ((ih (mendLine code n)).mono (List.subset_cons_self n ns))

/-! ## The repaired line and the line of the diagnosis -/

/-- A line without the carriage returns at its end, which is what a repair looks at. -/
def repairable (line : List Char) : List Char := dropEndWhile (· == '\r') line

theorem dropEndWhile_isEnding_of_numbered? {code raw : List Char} {n : Nat}
    (h : numbered? (rawLines code) n = some raw) :
    dropEndWhile isEnding raw = repairable (lineContent raw) := by
  refine (dropEndWhile_lineContent (s := code) ?_).symm
  cases n with
  | zero => simp [numbered?] at h
  | succ n => exact List.mem_of_getElem? h

theorem lineAt?_eq_map (code : List Char) (n : Nat) :
    lineAt? code n = (numbered? (rawLines code) n).map lineContent :=
  numbered?_map lineContent (rawLines code) n

/-- There is no fix where no line is, and where the repair leaves a line as it is but for white
space at its end. -/
theorem propose?_eq_none_iff {code : String} {n : Nat} :
    propose? code n = none ↔
      lineAt? code.toList n = none ∨ ∃ line, lineAt? code.toList n = some line ∧
        trimEnd (repairLine (repairable line)) = trimEnd (repairable line) := by
  rw [propose?, Option.map_eq_none_iff, lineAt?_eq_map]
  cases hraw : numbered? (rawLines code.toList) n with
  | none => simp [proposal?, hraw]
  | some raw =>
    simp only [proposal?, hraw, Option.bind_eq_bind, Option.bind_some, Option.bind_eq_none_iff,
      Option.pure_def, reduceCtorEq, imp_false, Option.map_some, false_or, Option.some.injEq,
      exists_eq_left']
    rw [← Option.eq_none_iff_forall_ne_some, repairRawLine?_eq_none_iff,
      dropEndWhile_isEnding_of_numbered? hraw]

/-- A fix puts the repair of the diagnosed line in its place, behind which the ending stays. -/
theorem exists_of_propose?_eq_some {code fixed : String} {n : Nat}
    (h : propose? code n = some fixed) :
    ∃ line raw, lineAt? code.toList n = some line ∧
      numbered? (rawLines code.toList) n = some raw ∧ raw = repairable line ++ ending raw ∧
      numbered? (rawLines fixed.toList) n = some (repairLine (repairable line) ++ ending raw) := by
  have hfixed : fixed = mendLine code n := by simp [mendLine, h]
  cases hraw : numbered? (rawLines code.toList) n with
  | none => simp [propose?, proposal?, hraw] at h
  | some raw =>
    have hcut := dropEndWhile_isEnding_of_numbered? hraw
    cases hr : repairRawLine? raw with
    | none => simp [propose?, proposal?, hraw, hr] at h
    | some raw' =>
      have hmend : mendRaw raw = repairLine (repairable (lineContent raw)) ++ ending raw := by
        rw [mendRaw, hr, ← hcut, (repairRawLine?_eq_some_iff.1 hr).2, Option.getD_some]
      refine ⟨lineContent raw, raw, by simp [lineAt?_eq_map, hraw], rfl, ?_, ?_⟩
      · rw [← hcut, ending, dropEndWhile_append_takeEndWhile]
      · rw [hfixed, toList_mendLine, rawLines_mend, numbered?_modifyNumbered, if_pos rfl, hraw,
          Option.map_some, hmend]

/-! ## Repair is local -/

/-- Fixes, whatever lines they name and however these end, keep the number of lines, all endings
and every line that they do not name; a line has no fix exactly when it does not exist or its repair
changes white space at its end only; the repaired line is the diagnosed one up to its carriage
returns; and fixes of two lines can be made in either order. -/
theorem mendLines_local (code : String) :
    (∀ ns, KeepsOthers ns code.toList (ns.foldl mendLine code).toList) ∧
    (∀ n, propose? code n = none ↔
      lineAt? code.toList n = none ∨ ∃ line, lineAt? code.toList n = some line ∧
        trimEnd (repairLine (repairable line)) = trimEnd (repairable line)) ∧
    (∀ n fixed, propose? code n = some fixed →
      ∃ line raw, lineAt? code.toList n = some line ∧
        numbered? (rawLines code.toList) n = some raw ∧ raw = repairable line ++ ending raw ∧
        numbered? (rawLines fixed.toList) n =
          some (repairLine (repairable line) ++ ending raw)) ∧
    ∀ i j, i ≠ j → mendLine (mendLine code i) j = mendLine (mendLine code j) i := by
  refine ⟨keepsOthers_foldl code, fun _ => propose?_eq_none_iff,
    fun _ _ => exists_of_propose?_eq_some, fun i j h => ?_⟩
  apply String.toList_inj.1
  simp only [toList_mendLine]
  exact mend_comm code.toList h

def mixedEndings : String := "if x\r\r\nprint 1\ny = f("

/-- The three lines get a colon, a call and a parenthesis, in any order, and keep their endings. -/
theorem mendLines_local_mixedEndings :
    [3, 0, 1, 7, 2].foldl mendLine mixedEndings = "if x:\r\r\nprint(1)\ny = f()" ∧
    mendLine (mendLine mixedEndings 1) 3 = mendLine (mendLine mixedEndings 3) 1 ∧
    mendLine mixedEndings 1 ≠ mixedEndings ∧ propose? mixedEndings 7 = none :=
  have h := mendLines_local mixedEndings
  ⟨by decide +kernel, h.2.2.2 1 3 (by decide), by decide +kernel,
    (h.2.1 7).2 (.inl (by decide +kernel))⟩

end ScriptPress.Repair
