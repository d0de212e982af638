import ScriptPress.Proofs.NextRepair

/-!
# Open delimiters

What a text leaves open, as a grammar of its characters outside the literals: delimiters that stay
open, with texts between them in which every delimiter that is opened is closed. The scanner owes
the closers of exactly those delimiters, and they are the shortest way to leave nothing open.

## Main definitions

* `Settled` — every delimiter that the text opens is closed in it.
* `LeavesOpen` — the closers of the delimiters that a text leaves open, innermost first.

## Main statements

* `owed_scanNesting` — the delimiter scanner sees a text without its literals.
* `leavesOpen_iff` — what a text leaves open is what the scanner owes behind it.
* `sublist_of_foldl_owedAfter` — closing delimiters that pay what is owed hold it.
* `closeDelimiters_shortest` — what closing the open delimiters of a text comes to.
-/

namespace ScriptPress.Script

open Text

/-! ## A grammar of delimiters -/

/-- Every delimiter that the text opens is closed in it. Behind the opening delimiter that `inner`
closes, the text does not close that one; other closing delimiters that do not fit are passed
over. -/
inductive Settled : (inner : Option Char) → List Char → Prop
  | nil (inner : Option Char) : Settled inner []
  | other {inner : Option Char} {c : Char} {s : List Char} (plain : closerOf? c = none)
      (unfit : inner ≠ some c) (rest : Settled inner s) : Settled inner (c :: s)
  | pair {inner : Option Char} {c closer : Char} {s t : List Char}
      (opens : closerOf? c = some closer) (inside : Settled (some closer) s)
      (rest : Settled inner t) : Settled inner (c :: (s ++ closer :: t))

/-- The closers of the delimiters that the text leaves open, innermost first. -/
inductive LeavesOpen : (inner : Option Char) → List Char → List Char → Prop
  | nothing {inner : Option Char} {s : List Char} (settled : Settled inner s) :
      LeavesOpen inner s []
  | opening {inner : Option Char} {c closer : Char} {s t owed : List Char}
      (settled : Settled inner s) (opens : closerOf? c = some closer)
      (rest : LeavesOpen (some closer) t owed) :
      LeavesOpen inner (s ++ c :: t) (owed ++ [closer])

variable {inner : Option Char} {s t owed : List Char}

theorem Settled.append (h : Settled inner s) (h' : Settled inner t) : Settled inner (s ++ t) := by
  induction h with
  | nil => exact h'
  | other plain unfit _ ih => exact .other plain unfit (ih h')
  | pair opens inside _ _ ih =>
    rw [List.cons_append, List.append_assoc, List.cons_append]
    exact .pair opens inside (ih h')

theorem Settled.leavesOpen_append (h : Settled inner s) (h' : LeavesOpen inner t owed) :
    LeavesOpen inner (s ++ t) owed := by
  cases h' with
  | nothing settled => exact .nothing (h.append settled)
  | opening settled opens rest =>
    rw [← List.append_assoc]
    exact .opening (h.append settled) opens rest

/-- A text leaves some delimiters open, or it closes the one around it. -/
theorem exists_leavesOpen_or (inner : Option Char) (s : List Char) :
    (∃ owed, LeavesOpen inner s owed) ∨
      ∃ c t r, inner = some c ∧ s = t ++ c :: r ∧ Settled inner t := by
  -- What stands behind a pair is shorter than the text, but no tail of it that is known beforehand.
  induction hlength : s.length using Nat.strong_induction_on generalizing inner s with
  | _ n ih =>
    subst hlength
    cases s with
    | nil => exact .inl ⟨[], .nothing (.nil inner)⟩
    | cons c s =>
      cases hopens : closerOf? c with
      | none =>
        by_cases hfits : inner = some c
        · exact .inr ⟨c, [], s, hfits, rfl, .nil inner⟩
        have hc : Settled inner [c] := .other hopens hfits (.nil inner)
        obtain ⟨owed, h⟩ | ⟨d, t, r, hd, rfl, h⟩ := ih s.length (by simp) inner s rfl
        · exact .inl ⟨owed, hc.leavesOpen_append h⟩
        · exact .inr ⟨d, c :: t, r, hd, rfl, hc.append h⟩
      | some closer =>
        obtain ⟨owed, h⟩ | ⟨d, t, r, hd, rfl, h⟩ := ih s.length (by simp) (some closer) s rfl
        · exact .inl ⟨owed ++ [closer], .opening (.nil inner) hopens h⟩
        obtain rfl := Option.some.inj hd
        have hpair : Settled inner (c :: (t ++ [closer])) := .pair hopens h (.nil inner)
        have hsplit : c :: (t ++ closer :: r) = c :: (t ++ [closer]) ++ r := by simp
        rw [hsplit]
        obtain ⟨owed, h'⟩ | ⟨d, t', r', hd, rfl, h'⟩ := ih r.length (by simp; omega) inner r rfl
        · exact .inl ⟨owed, hpair.leavesOpen_append h'⟩
        · exact .inr ⟨d, _, r', hd, (List.append_assoc _ _ _).symm, hpair.append h'⟩

/-! ## The scanner -/

theorem closerOf?_eq_none {c closer : Char} (h : closerOf? c = some closer) :
    closerOf? closer = none := by
  unfold closerOf? at h
  split_ifs at h <;> cases h <;> rfl

namespace Nesting

theorem owedAfter_opening {c closer : Char} (h : closerOf? c = some closer) (owed : List Char) :
    owedAfter owed c = closer :: owed := by
  rw [owedAfter, h]

theorem owedAfter_closer {c : Char} (h : closerOf? c = none) (owed : List Char) :
    owedAfter (c :: owed) c = owed := by
  rw [owedAfter, h]
  exact if_pos rfl

theorem owedAfter_other {c : Char} (h : closerOf? c = none) (hne : owed.head? ≠ some c) :
    owedAfter owed c = owed := by
  rw [owedAfter, h]
  exact if_neg hne

end Nesting

open Nesting

/-- The delimiter scanner sees a text without its literals. -/
theorem owed_scanNesting (n : Nesting) (s : List Char) :
    (scanNesting n s).owed = (unquoted n.quote s).foldl owedAfter n.owed := by
  induction s generalizing n with
  | nil => rfl
  | cons c s ih =>
    rw [scanNesting, List.foldl_cons, ← scanNesting, ih, unquoted]
    by_cases hquote : n.quote = .outside <;> simp [Nesting.step, hquote]

theorem closers_eq_foldl (s : List Char) :
    closers s = (unquoted .outside s).foldl owedAfter [] :=
  owed_scanNesting .start s

theorem Settled.foldl_owedAfter (h : Settled owed.head? s) : s.foldl owedAfter owed = owed := by
  generalize hinner : owed.head? = inner at h
  induction h generalizing owed with
  | nil => rfl
  | other plain unfit _ ih =>
    rw [List.foldl_cons, owedAfter_other plain (hinner ▸ unfit), ih hinner]
  | @pair _ c closer s t opens _ _ ihInside ihRest =>
    rw [List.foldl_cons, owedAfter_opening opens, List.foldl_append, ihInside rfl,
      List.foldl_cons, owedAfter_closer (closerOf?_eq_none opens), ihRest hinner]

theorem LeavesOpen.foldl_owedAfter (before : List Char) (h : LeavesOpen before.head? s owed) :
    s.foldl owedAfter before = owed ++ before := by
  generalize hinner : before.head? = inner at h
  induction h generalizing before with
  | nothing settled =>
    subst hinner
    exact settled.foldl_owedAfter
  | @opening _ c closer s t owed settled opens _ ih =>
    subst hinner
    rw [List.foldl_append, settled.foldl_owedAfter, List.foldl_cons, owedAfter_opening opens,
      ih _ rfl, List.append_assoc, List.singleton_append]

/-- What a text leaves open is what the scanner owes behind it. -/
theorem leavesOpen_iff : LeavesOpen none s owed ↔ s.foldl owedAfter [] = owed := by
  constructor
  · intro h
    rw [LeavesOpen.foldl_owedAfter [] h, List.append_nil]
  · rintro rfl
    obtain ⟨owed, h⟩ | ⟨_, _, _, hnone, _⟩ := exists_leavesOpen_or none s
    · have howed := LeavesOpen.foldl_owedAfter [] h
      rwa [howed, List.append_nil]
    · cases hnone

theorem leavesOpen_closers (s : List Char) :
    LeavesOpen none (unquoted .outside s) (closers s) :=
  leavesOpen_iff.2 (closers_eq_foldl s).symm

theorem settled_iff : Settled none s ↔ s.foldl owedAfter [] = [] := by
  rw [← leavesOpen_iff]
  refine ⟨.nothing, fun h => ?_⟩
  generalize howed : ([] : List Char) = owed at h
  cases h with
  | nothing settled => exact settled
  | opening => simp at howed

theorem closers_eq_nil_iff : closers s = [] ↔ Settled none (unquoted .outside s) := by
  rw [closers_eq_foldl, settled_iff]

/-! ## Closing delimiters -/

theorem closerOf?_of_closing : ∀ c ∈ [')', ']', '}'], closerOf? c = none := by
  simp [closerOf?]

/-- Closing delimiters that pay all that is owed hold it in its order. -/
theorem sublist_of_foldl_owedAfter (hclosing : ∀ c ∈ t, c ∈ [')', ']', '}'])
    (hpaid : t.foldl owedAfter owed = []) : owed.Sublist t := by
  induction t generalizing owed with
  | nil =>
    obtain rfl : owed = [] := hpaid
    exact .slnil
  | cons c t ih =>
    obtain ⟨hc, hclosing⟩ := List.forall_mem_cons.1 hclosing
    have hnone := closerOf?_of_closing c hc
    rw [List.foldl_cons] at hpaid
    by_cases hfits : owed.head? = some c
    · obtain ⟨owed, rfl⟩ := List.head?_eq_some_iff.1 hfits
      rw [owedAfter_closer hnone] at hpaid
      exact (ih hclosing hpaid).cons_cons c
    · rw [owedAfter_other hnone hfits] at hpaid
      exact (ih hclosing hpaid).cons c

theorem scanQuotes_of_openQuote? (h : openQuote? s = none) : scanQuotes .outside s = .outside :=
  QuoteState.mark?_eq_none_iff.1 h

/-- Behind a text without an open literal, closing delimiters pay what it owes. -/
theorem closers_append_closing (h : openQuote? s = none) (ht : ∀ c ∈ t, c ∈ [')', ']', '}']) :
    closers (s ++ t) = t.foldl owedAfter (closers s) := by
  rw [closers_eq_foldl, unquoted_append, scanQuotes_of_openQuote? h,
    unquoted_of_isPlain (all_isPlain_of_closing ht), List.foldl_append, ← closers_eq_foldl]

/-- A closing delimiter that does not fit counts for nothing. -/
theorem closers_drop_unfit {before behind : List Char} {c : Char}
    (h : openQuote? before = none) (hclosing : c ∈ [')', ']', '}'])
    (hunfit : (closers before).head? ≠ some c) :
    closers (before ++ c :: behind) = closers (before ++ behind) := by
  have hplain : isPlain c = true := by
    simpa using all_isPlain_of_closing (List.forall_mem_singleton.2 hclosing)
  have hstep : QuoteState.outside.step c = .outside :=
    step_of_isPlain QuoteState.isProper_outside hplain
  rw [closers_eq_foldl, closers_eq_foldl, unquoted_append, unquoted_append,
    scanQuotes_of_openQuote? h, unquoted, if_pos rfl, hstep, List.foldl_append, List.foldl_append,
    List.foldl_cons, ← closers_eq_foldl,
    owedAfter_other (closerOf?_of_closing c hclosing) hunfit]

/-- Inside a literal, one plain character counts as much as another. -/
theorem closers_replace_quoted {before behind : List Char} {c d : Char}
    (h : openQuote? before ≠ none) (hc : isPlain c = true) (hd : isPlain d = true) :
    closers (before ++ c :: behind) = closers (before ++ d :: behind) := by
  have hproper := QuoteState.isProper_outside.scanQuotes before
  have hinside : scanQuotes .outside before ≠ .outside := mt QuoteState.mark?_eq_none_iff.2 h
  rw [closers_eq_foldl, closers_eq_foldl, unquoted_append, unquoted_append, unquoted,
    if_neg hinside, unquoted, if_neg hinside, step_of_isPlain hproper hc,
    step_of_isPlain hproper hd]

end ScriptPress.Script

namespace ScriptPress.Repair

open Text Script

/-- Behind code without an open literal, closing what is open adds the closers of the delimiters
that the code leaves open, and nothing is open then. Nothing is added to code in which all is
closed, nor to what has been closed. Any other closing delimiters that leave nothing open are at
least as many. A delimiter in a literal counts no more than any other character there, and a
closing one that does not fit counts for nothing. -/
theorem closeDelimiters_shortest {code : List Char} (h : openQuote? code = none) :
    (∃ owed, closeDelimiters code = code ++ owed ∧ (∀ c ∈ owed, c ∈ [')', ']', '}']) ∧
      LeavesOpen none (unquoted .outside code) owed ∧
      ∀ t, (∀ c ∈ t, c ∈ [')', ']', '}']) → IsClosed (code ++ t) →
        owed.Sublist t ∧ owed.length ≤ t.length) ∧
    scanNesting .start (closeDelimiters code) = .start ∧
    Settled none (unquoted .outside (closeDelimiters code)) ∧
    closeDelimiters (closeDelimiters code) = closeDelimiters code ∧
    (closeDelimiters code = code ↔ Settled none (unquoted .outside code)) ∧
    (∀ before c behind, code = before ++ c :: behind → openQuote? before ≠ none →
      c ∈ ['(', '[', '{', ')', ']', '}'] → ∀ d, isPlain d = true →
        closers (before ++ d :: behind) = closers code) ∧
    ∀ before c behind, code = before ++ c :: behind → openQuote? before = none →
      c ∈ [')', ']', '}'] → (closers before).head? ≠ some c →
        closers (before ++ behind) = closers code := by
  have hclosed := isClosed_closeDelimiters h
  refine ⟨⟨closers code, rfl, fun _ => mem_closers, leavesOpen_closers code, ?_⟩,
    isClosed_iff.1 hclosed, closers_eq_nil_iff.1 hclosed.owed, ?_, ?_, ?_, ?_⟩
  · intro t ht hall
    have hpaid := hall.owed
    rw [closers_append_closing h ht] at hpaid
    have hsublist := sublist_of_foldl_owedAfter ht hpaid
    exact ⟨hsublist, hsublist.length_le⟩
  · rw [closeDelimiters, hclosed.owed, List.append_nil]
  · rw [← closers_eq_nil_iff, closeDelimiters, List.append_right_eq_self]
  · rintro before c behind rfl hquote hc d hd
    have plain : ∀ c ∈ ['(', '[', '{', ')', ']', '}'], isPlain c = true := by
      simp [isPlain, isQuote]
    exact closers_replace_quoted hquote hd (plain c hc)
  · rintro before c behind rfl hquote hc hunfit
    exact (closers_drop_unfit hquote hc hunfit).symm

/-- A call and a subscript that are open, with a bracket that does not fit between them and
parentheses in literals. -/
def mixedDelimiters : List Char := "d = \x7b'(': [f(x] + ')'".toList

/-- Three closers are added, and no two would do. -/
theorem mixedDelimiters_closed :
    openQuote? mixedDelimiters = none ∧
      closeDelimiters mixedDelimiters = mixedDelimiters ++ ")]\x7d".toList ∧
      scanNesting .start (closeDelimiters mixedDelimiters) = .start ∧
      (∀ t, (∀ c ∈ t, c ∈ [')', ']', '}']) → IsClosed (mixedDelimiters ++ t) → 3 ≤ t.length) ∧
      closers "d = \x7b'x': [f(x] + ')'".toList = closers mixedDelimiters ∧
      closers "d = \x7b'(': [f(x + ')'".toList = closers mixedDelimiters := by
  have hquote : openQuote? mixedDelimiters = none := by decide +kernel
  have hclosed : closeDelimiters mixedDelimiters = mixedDelimiters ++ ")]\x7d".toList := by
    decide +kernel
  obtain ⟨⟨owed, hadded, -, -, hshortest⟩, hnothing, -, -, -, hquoted, hunfit⟩ :=
    closeDelimiters_shortest hquote
  obtain rfl : ")]\x7d".toList = owed := List.append_cancel_left (hclosed.symm.trans hadded)
  refine ⟨hquote, hclosed, hnothing, fun t ht hall => (hshortest t ht hall).2, ?_, ?_⟩
  · exact hquoted "d = \x7b'".toList '(' "': [f(x] + ')'".toList (by decide +kernel)
      (by decide +kernel) (by simp) 'x' (by decide)
  · exact hunfit "d = \x7b'(': [f(x".toList ']' " + ')'".toList (by decide +kernel)
      (by decide +kernel) (by simp) (by decide +kernel)

end ScriptPress.Repair
