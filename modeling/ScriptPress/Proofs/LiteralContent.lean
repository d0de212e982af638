import ScriptPress.Proofs.RepairScan

/-!
# The literals on a line

The literals that end on a line, read off by one pass of the quote scanner. A repair leaves them as
they are, one after the other, unless the assignment sign that a rule changes stands inside one of
them: the rules look at single characters and do not ask the scanner.

## Main definitions

* `LiteralScan` — the scanner with the literal that is open and those that have ended.
* `literals` — the literals that end in a text.
* `actedSign?` — the cut at the assignment sign that a rule acts on.
* `ActsOutside` — the rules act on no sign and on no comma inside a literal.

## Main statements

* `literals_append_of_outside`, `literals_append_of_isPlain` — the literals of a text in parts.
* `ended_of_inside` — what a literal that is open ends as.
* `literals_comparison_iff`, `literals_list_iff` — which literals a rule changes.
* `literals_kept_iff` — when a repair leaves every literal of a line as it is.
-/

namespace ScriptPress.Script

open Text

/-! ## The scanner -/

/-- The state of the literal scanner: the quotes, what has been read of the literal that is open,
and the literals that have ended, each with its marks. -/
structure LiteralScan where
  quote : QuoteState
  text : List Char
  ended : List (List Char)
  deriving DecidableEq, Repr

namespace LiteralScan

def start : LiteralScan := ⟨.outside, [], []⟩

/-- The state behind the character `c`. -/
def step (n : LiteralScan) (c : Char) : LiteralScan :=
  if n.quote.step c = .outside then
    ⟨.outside, [], if n.quote = .outside then n.ended else n.ended ++ [n.text ++ [c]]⟩
  else ⟨n.quote.step c, n.text ++ [c], n.ended⟩

@[simp] theorem quote_step (n : LiteralScan) (c : Char) :
    (n.step c).quote = n.quote.step c := by
  unfold step
  split <;> simp_all

end LiteralScan

def scanLiterals (n : LiteralScan) (s : List Char) : LiteralScan := s.foldl LiteralScan.step n

/-- The literals that end in a text, each with its marks, from left to right. -/
def literals (s : List Char) : List (List Char) := (scanLiterals .start s).ended

@[simp] theorem scanLiterals_nil (n : LiteralScan) : scanLiterals n [] = n := rfl

@[simp] theorem scanLiterals_cons (n : LiteralScan) (c : Char) (s : List Char) :
    scanLiterals n (c :: s) = scanLiterals (n.step c) s := rfl

@[simp] theorem scanLiterals_append (n : LiteralScan) (s t : List Char) :
    scanLiterals n (s ++ t) = scanLiterals (scanLiterals n s) t := List.foldl_append

/-- The literal scanner scans quotes as the quote scanner does. -/
@[simp] theorem quote_scanLiterals (n : LiteralScan) (s : List Char) :
    (scanLiterals n s).quote = scanQuotes n.quote s := by
  induction s generalizing n with
  | nil => rfl
  | cons c s ih => rw [scanLiterals_cons, ih, LiteralScan.quote_step, scanQuotes_cons]

/-- Outside every literal nothing has been read of one. -/
theorem text_scanLiterals_of_outside {s : List Char} (h : scanQuotes .outside s = .outside) :
    (scanLiterals .start s).text = [] := by
  rcases s.eq_nil_or_concat with rfl | ⟨s, c, rfl⟩
  · rfl
  · have hquote : (scanLiterals .start s).quote.step c = .outside := by
      rw [quote_scanLiterals, ← h, List.concat_eq_append, scanQuotes_append]
      rfl
    rw [List.concat_eq_append, scanLiterals_append, scanLiterals_cons, scanLiterals_nil,
      LiteralScan.step, if_pos hquote]

theorem scanLiterals_of_outside {s : List Char} (h : scanQuotes .outside s = .outside) :
    scanLiterals .start s = ⟨.outside, [], literals s⟩ := by
  have hquote : (scanLiterals .start s).quote = .outside := by
    rw [quote_scanLiterals]
    exact h
  rw [literals, ← hquote, ← text_scanLiterals_of_outside h]

/-- What ends in a text does not hang on what has ended in front. -/
theorem ended_scanLiterals (q : QuoteState) (text : List Char) (ended : List (List Char))
    (s : List Char) :
    (scanLiterals ⟨q, text, ended⟩ s).ended = ended ++ (scanLiterals ⟨q, text, []⟩ s).ended := by
  induction s generalizing q text ended with
  | nil => simp
  | cons c s ih =>
    rw [scanLiterals_cons, scanLiterals_cons, LiteralScan.step, LiteralScan.step]
    dsimp only
    split
    · rw [ih, ih _ _ (if q = .outside then [] else [] ++ [text ++ [c]])]
      split <;> simp
    · rw [ih]

/-- No literal ends that ended in front. -/
theorem ended_prefix (n : LiteralScan) (s : List Char) : n.ended <+: (scanLiterals n s).ended := by
  obtain ⟨q, text, ended⟩ := n
  rw [ended_scanLiterals]
  exact List.prefix_append _ _

theorem literals_prefix_append (s t : List Char) : literals s <+: literals (s ++ t) := by
  rw [literals, literals, scanLiterals_append]
  exact ended_prefix _ t

/-- Behind a place outside every literal the scan begins anew. -/
theorem literals_append_of_outside {s : List Char} (h : scanQuotes .outside s = .outside)
    (t : List Char) : literals (s ++ t) = literals s ++ literals t := by
  rw [literals, scanLiterals_append, scanLiterals_of_outside h, ended_scanLiterals]
  rfl

/-! ## Plain characters -/

/-- Plain characters end no literal. -/
theorem ended_of_isPlain {n : LiteralScan} (hn : n.quote.IsProper) {s : List Char}
    (hs : s.all isPlain = true) : (scanLiterals n s).ended = n.ended := by
  induction s generalizing n with
  | nil => rfl
  | cons c s ih =>
    obtain ⟨hc, hs⟩ : isPlain c = true ∧ s.all isPlain = true := by simpa using hs
    have hquote := step_of_isPlain hn hc
    have hstep : (n.step c).quote.IsProper := by
      rw [LiteralScan.quote_step, hquote]
      exact hn.settle
    have hended : (n.step c).ended = n.ended := by
      unfold LiteralScan.step
      split
      · rename_i hout
        rw [hquote, QuoteState.settle_eq_outside_iff] at hout
        simp [hout]
      · rfl
    rw [scanLiterals_cons, ih hstep hs, hended]

theorem isProper_scanLiterals (s : List Char) : (scanLiterals .start s).quote.IsProper := by
  rw [quote_scanLiterals]
  exact QuoteState.isProper_outside.scanQuotes s

theorem literals_append_of_isPlain (s : List Char) {t : List Char} (ht : t.all isPlain = true) :
    literals (s ++ t) = literals s := by
  rw [literals, scanLiterals_append, ended_of_isPlain (isProper_scanLiterals s) ht, literals]

theorem literals_of_isPlain {s : List Char} (hs : s.all isPlain = true) : literals s = [] :=
  literals_append_of_isPlain [] hs

theorem literals_append_left {s : List Char} (hs : s.all isPlain = true) (t : List Char) :
    literals (s ++ t) = literals t := by
  rw [literals_append_of_outside (passes_outside hs).scanQuotes_eq, literals_of_isPlain hs,
    List.nil_append]

@[simp] theorem literals_trimEnd (s : List Char) : literals (trimEnd s) = literals s := by
  conv_rhs => rw [← trimEnd_append_takeEndWhile s]
  rw [literals_append_of_isPlain _ (all_isPlain_takeEndWhile s)]

@[simp] theorem literals_trimStart (s : List Char) : literals (trimStart s) = literals s := by
  conv_rhs => rw [← takeWhile_append_trimStart s]
  rw [literals_append_left (all_isPlain_takeWhile s)]

@[simp] theorem literals_trim (s : List Char) : literals (trim s) = literals s := by
  rw [trim, literals_trimEnd, literals_trimStart]

/-! ## The literal that is open -/

/-- Plain characters in an open literal become a part of it. -/
theorem scanLiterals_of_isPlain {n : LiteralScan} (hn : n.quote ≠ .outside)
    (hproper : n.quote.IsProper) {s : List Char} (hs : s.all isPlain = true) :
    (scanLiterals n s).quote ≠ .outside ∧ (scanLiterals n s).text = n.text ++ s := by
  induction s generalizing n with
  | nil => exact ⟨hn, (List.append_nil _).symm⟩
  | cons c s ih =>
    obtain ⟨hc, hs⟩ : isPlain c = true ∧ s.all isPlain = true := by simpa using hs
    have hquote := step_of_isPlain hproper hc
    have hinside : n.quote.step c ≠ .outside := by
      rw [hquote, Ne, QuoteState.settle_eq_outside_iff]
      exact hn
    have hstep : n.step c = ⟨n.quote.step c, n.text ++ [c], n.ended⟩ := if_neg hinside
    have hproper' : (n.quote.step c).IsProper := hquote ▸ hproper.settle
    rw [scanLiterals_cons, hstep]
    obtain ⟨hopen, htext⟩ := ih (n := ⟨n.quote.step c, n.text ++ [c], n.ended⟩) hinside hproper' hs
    exact ⟨hopen, by rw [htext, List.append_assoc, List.singleton_append]⟩

/-- The next literal to end is the one that is open, with what follows up to its mark. -/
theorem ended_of_inside {n : LiteralScan} (hn : n.quote ≠ .outside) (s : List Char) :
    (scanLiterals n s).ended = n.ended ∨
      ∃ x more, x <+: s ∧ (scanLiterals n s).ended = n.ended ++ (n.text ++ x) :: more := by
  induction s generalizing n with
  | nil => exact .inl rfl
  | cons c s ih =>
    rw [scanLiterals_cons]
    by_cases hquote : n.quote.step c = .outside
    · have hstep : n.step c = ⟨.outside, [], n.ended ++ [n.text ++ [c]]⟩ := by
        rw [LiteralScan.step, if_pos hquote, if_neg hn]
      obtain ⟨more, hmore⟩ := ended_prefix (n.step c) s
      refine .inr ⟨[c], more, ⟨s, rfl⟩, ?_⟩
      rw [← hmore, hstep, List.append_assoc, List.singleton_append]
    · have hstep : n.step c = ⟨n.quote.step c, n.text ++ [c], n.ended⟩ := if_neg hquote
      rw [hstep]
      rcases ih (n := ⟨n.quote.step c, n.text ++ [c], n.ended⟩) hquote with h | ⟨x, more, hx, h⟩
      · exact .inl h
      · refine .inr ⟨c :: x, more, List.cons_prefix_cons.2 ⟨rfl, hx⟩, ?_⟩
        rw [h, List.append_assoc, List.singleton_append]

/-- The literal that a text leaves open ends with plain characters and more, or it does not end. -/
theorem literals_append_cases {s : List Char} (hs : openQuote? s ≠ none) {t : List Char}
    (ht : t.all isPlain = true) (u : List Char) :
    literals (s ++ t ++ u) = literals s ∨
      ∃ x more, x <+: u ∧
        literals (s ++ t ++ u) =
          literals s ++ ((scanLiterals .start s).text ++ t ++ x) :: more := by
  have hinside : (scanLiterals .start s).quote ≠ .outside := by
    rw [quote_scanLiterals]
    exact mt QuoteState.mark?_eq_none_iff.2 hs
  have hproper := isProper_scanLiterals s
  obtain ⟨hopen, htext⟩ := scanLiterals_of_isPlain hinside hproper ht
  have hended := ended_of_isPlain hproper ht
  have hcases := ended_of_inside hopen u
  rwa [htext, hended, ← scanLiterals_append, ← scanLiterals_append, ← List.append_assoc] at hcases

/-- A literal is made of characters of the text. -/
theorem subset_of_mem_literals {s l : List Char} (hl : l ∈ literals s) : l ⊆ s := by
  have scanned : ∀ (t : List Char) (n : LiteralScan), n.text ⊆ s → (∀ l ∈ n.ended, l ⊆ s) → t ⊆ s →
      ∀ l ∈ (scanLiterals n t).ended, l ⊆ s := by
    intro t
    induction t with
    | nil => exact fun n _ hended _ => hended
    | cons c t ih =>
      intro n htext hended ht
      obtain ⟨hc, ht⟩ := List.cons_subset.1 ht
      have hread : n.text ++ [c] ⊆ s := List.append_subset.2 ⟨htext, by simpa using hc⟩
      refine ih (n.step c) ?_ ?_ ht <;> unfold LiteralScan.step <;> grind
  exact scanned s .start (List.nil_subset s) (by simp [LiteralScan.start]) (List.Subset.refl s) l hl

end ScriptPress.Script

namespace ScriptPress.Repair

open Text Script

variable {code left right : List Char}

/-! ## The sign that a rule acts on -/

/-- The cut of the code at the assignment sign that the first rule to apply acts on: the sign that
becomes a comparison, that assigns nothing, or that stands in front of bare values. -/
def actedSign? (code : List Char) : Option (List Char × List Char) :=
  if lacksColon code then none
  else
    match conditionAssignment? code with
    | some cut => some cut
    | none => if assignsNothing code then some (code.dropLast, []) else bareTuple? code

/-- Whether the rules act on an assignment sign outside every literal, and on bare values only
where a comma outside every literal separates them. -/
structure ActsOutside (code : List Char) : Prop where
  sign : ∀ left right, actedSign? code = some (left, right) → openQuote? left = none
  comma : ∀ cut, actedSign? code = some cut → bareTuple? code = some cut →
    ∃ a b, code = a ++ ',' :: b ∧ openQuote? a = none

/-- The code is the two sides of that sign. -/
theorem eq_append_of_actedSign? (h : actedSign? code = some (left, right)) :
    code = left ++ '=' :: right := by
  unfold actedSign? at h
  split at h
  · simp at h
  · split at h
    · rename_i e
      exact eq_append_of_conditionAssignment? (e.trans h)
    · split at h
      · rename_i hnothing
        obtain ⟨rfl, rfl⟩ := Prod.mk.inj (Option.some.inj h)
        obtain ⟨front, rfl⟩ := List.getLast?_eq_some_iff.1 (getLast?_of_assignsNothing hnothing)
        rw [List.dropLast_concat]
      · exact eq_append_of_bareTuple? h

/-- Where every assignment sign and every comma of the code stands outside its literals, the rules
act outside them. -/
theorem actsOutside_of_forall (h : ∀ a b c, code = a ++ c :: b → c = '=' ∨ c = ',' →
    openQuote? a = none) : ActsOutside code where
  sign left right hacted := h left right '=' (eq_append_of_actedSign? hacted) (.inl rfl)
  comma cut _ htuple := by
    have hcomma : ',' ∈ code := by
      unfold bareTuple? at htuple
      grind
    obtain ⟨a, b, hcut⟩ := List.append_of_mem hcomma
    exact ⟨a, b, hcut, h a b ',' hcut (.inr rfl)⟩

/-! ## The rules -/

theorem openQuote?_append_of_isPlain (s : List Char) {t : List Char} (ht : t.all isPlain = true) :
    openQuote? (s ++ t) = openQuote? s := by
  by_cases hne : t = []
  · rw [hne, List.append_nil]
  · have hproper := QuoteState.isProper_outside.scanQuotes s
    rw [openQuote?, scanQuotes_append, scanQuotes_of_isPlain hproper ht hne,
      QuoteState.mark?_settle, openQuote?]

@[simp] theorem openQuote?_trimEnd (s : List Char) : openQuote? (trimEnd s) = openQuote? s := by
  conv_rhs => rw [← trimEnd_append_takeEndWhile s]
  rw [openQuote?_append_of_isPlain _ (all_isPlain_takeEndWhile s)]

/-- Another text in place of an assignment sign leaves the literals that end on the line as they
are, unless the sign stands inside one of them and that one becomes another literal. -/
theorem literals_sign_iff {left' sign rest : List Char}
    (hquote : openQuote? left' = openQuote? left) (hleft : literals left' = literals left)
    (hsign : sign.all isPlain = true) (hright : literals right <+: literals rest)
    (apart : ∀ x y, x <+: right →
      (scanLiterals .start left).text ++ ['='] ++ x ∈ literals (left ++ ['='] ++ right) →
      (scanLiterals .start left).text ++ ['='] ++ x ≠
        (scanLiterals .start left').text ++ sign ++ y) :
    literals (left ++ ['='] ++ right) <+: literals (left' ++ sign ++ rest) ↔
      openQuote? left = none ∨ literals left = literals (left ++ ['='] ++ right) := by
  by_cases hopen : openQuote? left = none
  · have hout := QuoteState.mark?_eq_none_iff.1 hopen
    have hout' := QuoteState.mark?_eq_none_iff.1 (hquote.trans hopen)
    rw [List.append_assoc, List.append_assoc, literals_append_of_outside hout,
      literals_append_of_outside hout', literals_append_left (by decide),
      literals_append_left hsign, hleft, List.prefix_append_right_inj]
    simp [hopen, hright]
  · have hopen' : openQuote? left' ≠ none := hquote ▸ hopen
    rw [or_iff_right hopen]
    rcases literals_append_cases hopen (t := ['=']) (by decide) right with
      hcode | ⟨x, more, hx, hcode⟩
    · rw [hcode, ← hleft, List.append_assoc]
      exact iff_of_true (literals_prefix_append left' _) rfl
    · have hmem : (scanLiterals .start left).text ++ ['='] ++ x ∈
          literals (left ++ ['='] ++ right) := by
        rw [hcode]
        exact List.mem_append_right _ List.mem_cons_self
      have hmore : literals left ≠ literals (left ++ ['='] ++ right) := by
        rw [hcode]
        simp
      refine iff_of_false (fun hprefix => ?_) hmore
      rw [hcode] at hprefix
      rcases literals_append_cases hopen' hsign rest with hnew | ⟨y, more', -, hnew⟩
      · rw [hnew, hleft] at hprefix
        have hlength := hprefix.length_le
        simp only [List.length_append, List.length_cons] at hlength
        omega
      · rw [hnew, hleft, List.prefix_append_right_inj, List.cons_prefix_cons] at hprefix
        exact apart x y hx hmem hprefix.1

theorem literals_comparison_iff (left : List Char) (hhead : right.head? ≠ some '=')
    (t : List Char) :
    literals (left ++ ['='] ++ right) <+: literals (left ++ "==".toList ++ (right ++ t)) ↔
      openQuote? left = none ∨ literals left = literals (left ++ ['='] ++ right) := by
  refine literals_sign_iff rfl rfl (by decide) (literals_prefix_append right t) ?_
  intro x y hx _ e
  rw [List.append_assoc, List.append_assoc, List.append_cancel_left_eq] at e
  obtain ⟨u, rfl⟩ := hx
  obtain rfl := (List.cons.inj e).2
  exact hhead rfl

theorem literals_list_iff (hbracket : '[' ∉ left ++ ['='] ++ right) (t : List Char) :
    literals (left ++ ['='] ++ right) <+:
        literals (trimEnd left ++ " = [".toList ++ (trim right ++ t)) ↔
      openQuote? left = none ∨ literals left = literals (left ++ ['='] ++ right) := by
  have hright : literals right <+: literals (trim right ++ t) := by
    rw [← literals_trim right]
    exact literals_prefix_append _ t
  refine literals_sign_iff (by simp) (by simp) (by decide) hright ?_
  intro x y _ hmem e
  -- A literal with the bracket in it is none of the code, which has no bracket.
  rw [e] at hmem
  exact hbracket (subset_of_mem_literals hmem (by simp))

/-- The first rule to apply leaves the literals that end in the code as they are, unless it acts on
a sign inside one of them. -/
theorem literals_repairStatement_iff (code t : List Char) :
    literals code <+: literals (repairStatement code ++ t) ↔
      ∀ left right, actedSign? code = some (left, right) →
        openQuote? left = none ∨ literals left = literals code := by
  unfold repairStatement actedSign?
  by_cases hcolon : lacksColon code = true
  · rw [if_pos hcolon, if_pos hcolon, List.append_assoc]
    simp [literals_prefix_append]
  rw [if_neg hcolon, if_neg hcolon]
  rcases hcondition : conditionAssignment? code with _ | ⟨left, right⟩
  · dsimp only
    by_cases hnothing : assignsNothing code = true
    · rw [if_pos hnothing, if_pos hnothing, List.append_assoc]
      obtain ⟨front, rfl⟩ := List.getLast?_eq_some_iff.1 (getLast?_of_assignsNothing hnothing)
      have hfront : literals front = literals (front ++ ['=']) :=
        (literals_append_of_isPlain front (by decide)).symm
      refine iff_of_true (literals_prefix_append _ _) ?_
      rintro left right e
      obtain ⟨rfl, rfl⟩ := Prod.mk.inj (Option.some.inj e)
      exact .inr (by rw [List.dropLast_concat, hfront])
    · rw [if_neg hnothing, if_neg hnothing]
      rcases htuple : bareTuple? code with _ | ⟨left, right⟩
      · simp [literals_prefix_append]
      · obtain rfl := eq_append_of_bareTuple? htuple
        have hbracket : '[' ∉ left ++ ['='] ++ right := by
          unfold bareTuple? at htuple
          grind
        have hlist := literals_list_iff hbracket ("]".toList ++ t)
        simpa using hlist
  · obtain rfl := eq_append_of_conditionAssignment? hcondition
    have hmem : (left, right) ∈ assignments (left ++ '=' :: right) := by
      simp [assignments_of_conditionAssignment? hcondition]
    have hcomparison := literals_comparison_iff left (head?_of_mem_assignments hmem) t
    simpa using hcomparison

/-! ## The closing steps -/

theorem literals_callPrint (code : List Char) : literals (callPrint code) = literals code := by
  have repaired := callPrint_cases code
  generalize callPrint code = code' at repaired ⊢
  cases repaired with
  | @call gap value tail hcode hgap htail =>
    have hcall : literals ("print(".toList ++ value ++ ")".toList) = literals value := by
      rw [literals_append_of_isPlain _ (by decide), literals_append_left (by decide)]
    rw [hcall, hcode, literals_append_left (by decide),
      literals_append_left (all_isPlain_of_isBlank hgap),
      literals_append_of_isPlain _ (all_isPlain_of_isBlank htail)]
  | kept => rfl

theorem literals_closeDelimiters (code : List Char) :
    literals (closeDelimiters code) = literals code :=
  literals_append_of_isPlain code (all_isPlain_closers code)

theorem literals_repairCode_iff (code : List Char) :
    literals code <+: literals (repairCode code) ↔
      ∀ left right, actedSign? (trimEnd code) = some (left, right) →
        openQuote? left = none ∨ literals left = literals code := by
  rw [repairCode, literals_closeDelimiters, literals_callPrint, closeQuote, ← literals_trimEnd code]
  exact literals_repairStatement_iff (trimEnd code) _

/-- The literals that end in the code of a line stand in the repaired line, in their order and in
front of any other, unless a rule acts on an assignment sign inside one of them. Where no
assignment sign and no comma of the code stands inside a literal, the rules act on none there. -/
theorem literals_kept_iff (line : List Char) :
    (literals (splitComment line).1 <+: literals (splitComment (repairLine line)).1 ↔
      ∀ left right, actedSign? (trim (splitComment line).1) = some (left, right) →
        openQuote? left = none ∨ literals left = literals (splitComment line).1) ∧
    ((∀ a b c, trim (splitComment line).1 = a ++ c :: b → c = '=' ∨ c = ',' →
        openQuote? a = none) →
      ActsOutside (trim (splitComment line).1)) := by
  constructor
  · obtain ⟨r, hpass⟩ := (isCut_splitComment line).exists_passes
    have hcode := literals_repairCode_iff (trimStart (splitComment line).1)
    rw [literals_trimStart, ← trim] at hcode
    rw [splitComment_repairLine, repairLine_of_passes hpass,
      literals_append_left (all_isPlain_takeWhile _), hcode]
  · exact actsOutside_of_forall

/-- The sign in this literal becomes a comparison. -/
theorem compared_literal :
    "'a=b'".toList ∈ literals (splitComment "if f('a=b'):".toList).1 ∧
      ¬ "'a=b'".toList <:+: repairLine "if f('a=b'):".toList ∧
      ¬ ActsOutside "if f('a=b'):".toList := by
  refine ⟨by decide +kernel, by decide +kernel, fun h => ?_⟩
  have hsign := h.sign "if f('a".toList "b'):".toList (by decide +kernel)
  exact absurd hsign (by decide +kernel)

end ScriptPress.Repair
