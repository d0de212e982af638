import ScriptPress.Proofs.RepairedLine

/-!
# Texts under the quote scanner

Where the scanner stands behind a text, and whether a comment begins on the way. Most characters
are plain: they move the scanner neither into a literal nor out of one, and all that ends behind
them is the reach of a backslash. A cut of a line into code and comment is known by where the
scanner stands behind the code.

## Main definitions

* `QuoteState.takesNext`, `QuoteState.settle` — the reach of a backslash, and the state when it is
  over.
* `QuoteState.close` — the state behind a closing mark.
* `isPlain`, `isNeutral` — characters that say nothing to the quote scanner, and to the delimiter
  scanner.
* `unquoted` — the characters of a text outside its literals.
* `Passes` — the scanner gets through a text and meets no comment sign.
* `IsCut` — code and comment of one line.

## Main statements

* `passes_iff` — getting through a text, said of the comment signs in it.
* `passes_of_isPlain`, `scanNesting_of_isNeutral` — the scanners behind characters that say nothing.
* `isCut_splitComment`, `IsCut.splitComment_eq` — a line has one cut into code and comment.
* `splitComment_eq_self_iff` — which lines have no comment.
-/

namespace ScriptPress.Script

open Text Repair

/-! ## States -/

namespace QuoteState

/-- Whether a backslash takes the next character along. -/
def takesNext : QuoteState → Bool
  | inside _ true => true
  | _ => false

/-- The state in which no backslash takes a character along any more. -/
def settle : QuoteState → QuoteState
  | outside => outside
  | inside mark _ => inside mark false

/-- The state behind the mark of the literal that is open, put there to close it. -/
def close (q : QuoteState) : QuoteState := if q.takesNext then q.settle else outside

/-- The literal that is open, if there is one, ends at a quote character. -/
def IsProper (q : QuoteState) : Prop := ∀ c ∈ q.mark?, isQuote c = true

variable {q : QuoteState}

@[simp] theorem settle_outside : outside.settle = outside := rfl

@[simp] theorem takesNext_outside : outside.takesNext = false := rfl

@[simp] theorem settle_settle (q : QuoteState) : q.settle.settle = q.settle := by
  cases q <;> rfl

@[simp] theorem takesNext_settle (q : QuoteState) : q.settle.takesNext = false := by
  cases q <;> rfl

@[simp] theorem mark?_settle (q : QuoteState) : q.settle.mark? = q.mark? := by
  cases q <;> rfl

theorem settle_of_takesNext (h : q.takesNext = false) : q.settle = q := by
  cases q with
  | outside => rfl
  | inside mark escaped => cases escaped <;> simp_all [takesNext, settle]

theorem settle_eq_outside_iff : q.settle = outside ↔ q = outside := by
  cases q <;> simp [settle]

@[simp] theorem settle_close (q : QuoteState) : q.close.settle = q.close := by
  unfold close
  split <;> simp

theorem close_eq_outside_iff : q.close = outside ↔ q.takesNext = false := by
  cases q with
  | outside => simp [close]
  | inside mark escaped => cases escaped <;> simp [close, takesNext, settle]

theorem isProper_outside : IsProper outside := by simp [IsProper]

theorem IsProper.settle (h : q.IsProper) : q.settle.IsProper := by simpa [IsProper] using h

theorem IsProper.scanQuotes (h : q.IsProper) (s : List Char) : (scanQuotes q s).IsProper :=
  isQuote_of_mem_mark? h s

end QuoteState

/-! ## Characters that say nothing -/

/-- Whether a character neither begins nor ends a literal, takes no other along and begins no
comment. -/
def isPlain (c : Char) : Bool := !isQuote c && c != '\\' && c != '#'

/-- Whether a plain character is no delimiter either. -/
def isNeutral (c : Char) : Bool := isPlain c && c ∉ ['(', '[', '{', ')', ']', '}']

theorem isPlain_of_isNeutral {c : Char} (h : isNeutral c = true) : isPlain c = true := by
  simp_all [isNeutral]

theorem isPlain_of_isBlank {c : Char} (h : isBlank c = true) : isPlain c = true := by
  have visible : ∀ d ∈ ['\'', '"', '\\', '#'], isBlank d = false := by simp [isBlank]
  have hne : ∀ d ∈ ['\'', '"', '\\', '#'], c ≠ d := by
    rintro d hd rfl
    simp [visible c hd] at h
  simpa [isPlain, isQuote, and_assoc] using hne

theorem all_isPlain_of_isBlank {s : List Char} (h : ∀ c ∈ s, isBlank c = true) :
    s.all isPlain = true :=
  List.all_eq_true.2 fun c hc => isPlain_of_isBlank (h c hc)

theorem all_isPlain_of_closing {s : List Char} (h : ∀ c ∈ s, c ∈ [')', ']', '}']) :
    s.all isPlain = true := by
  have closing : ∀ c ∈ [')', ']', '}'], isPlain c = true := by simp [isPlain, isQuote]
  exact List.all_eq_true.2 fun c hc => closing c (h c hc)

/-- Behind a plain character the scanner stands where it stood, and no backslash reaches on. -/
theorem step_of_isPlain {q : QuoteState} (hq : q.IsProper) {c : Char} (hc : isPlain c = true) :
    q.step c = q.settle := by
  obtain ⟨⟨hquote, hslash⟩, -⟩ : (isQuote c = false ∧ c ≠ '\\') ∧ c ≠ '#' := by
    simpa [isPlain] using hc
  cases q with
  | outside => simp [QuoteState.step, hquote]
  | inside mark escaped =>
    have hmark : c ≠ mark := by
      rintro rfl
      simp [hq c (by simp)] at hquote
    cases escaped <;> simp [QuoteState.step, QuoteState.settle, hslash, hmark]

theorem scanQuotes_of_isPlain {q : QuoteState} (hq : q.IsProper) {s : List Char}
    (hs : s.all isPlain = true) (hne : s ≠ []) : scanQuotes q s = q.settle := by
  induction s generalizing q with
  | nil => exact absurd rfl hne
  | cons c s ih =>
    obtain ⟨hc, hs⟩ : isPlain c = true ∧ s.all isPlain = true := by simpa using hs
    rw [scanQuotes_cons, step_of_isPlain hq hc]
    by_cases hnil : s = []
    · rw [hnil, scanQuotes_nil]
    · rw [ih hq.settle hs hnil, QuoteState.settle_settle]

/-- A neutral character changes nothing for the delimiter scanner but the reach of a backslash. -/
theorem Nesting.step_of_isNeutral {n : Nesting} (hq : n.quote.IsProper)
    (howed : ∀ c ∈ n.owed, c ∈ [')', ']', '}']) {c : Char} (hc : isNeutral c = true) :
    n.step c = ⟨n.quote.settle, n.owed⟩ := by
  have hopen : closerOf? c = none := by
    simp only [isNeutral, Bool.and_eq_true, decide_eq_true_eq] at hc
    simp_all [closerOf?]
  have hhead : n.owed.head? ≠ some c := by
    intro h
    have hclose := howed c (List.mem_of_head? h)
    simp only [isNeutral, Bool.and_eq_true, decide_eq_true_eq] at hc
    simp_all
  have howed' : Nesting.owedAfter n.owed c = n.owed := by simp [Nesting.owedAfter, hopen, hhead]
  rw [Nesting.step, step_of_isPlain hq (isPlain_of_isNeutral hc), howed', ite_self]

theorem scanNesting_of_isNeutral {n : Nesting} (hq : n.quote.IsProper)
    (howed : ∀ c ∈ n.owed, c ∈ [')', ']', '}']) {s : List Char} (hs : s.all isNeutral = true)
    (hne : s ≠ []) : scanNesting n s = ⟨n.quote.settle, n.owed⟩ := by
  induction s generalizing n with
  | nil => exact absurd rfl hne
  | cons c s ih =>
    obtain ⟨hc, hs⟩ : isNeutral c = true ∧ s.all isNeutral = true := by simpa using hs
    rw [scanNesting, List.foldl_cons, Nesting.step_of_isNeutral hq howed hc, ← scanNesting]
    by_cases hnil : s = []
    · rw [hnil, scanNesting, List.foldl_nil]
    · have rest := ih (n := ⟨n.quote.settle, n.owed⟩) hq.settle howed hs hnil
      rw [rest, QuoteState.settle_settle]

/-- Behind a line, neutral characters change nothing about what is open. -/
theorem scanNesting_start_append (s : List Char) {t : List Char}
    (ht : t.all isNeutral = true) (hne : t ≠ []) :
    scanNesting .start (s ++ t) =
      ⟨(scanNesting .start s).quote.settle, (scanNesting .start s).owed⟩ := by
  have hproper : (scanNesting .start s).quote.IsProper := by
    rw [quote_scanNesting]
    exact QuoteState.isProper_outside.scanQuotes s
  have howed : ∀ c ∈ (scanNesting .start s).owed, c ∈ [')', ']', '}'] :=
    mem_owed (by simp [Nesting.start]) s
  rw [scanNesting_append, scanNesting_of_isNeutral hproper howed ht hne]

theorem scanNesting_start_of_isNeutral {s : List Char} (hs : s.all isNeutral = true) :
    scanNesting .start s = .start := by
  by_cases hne : s = []
  · rw [hne, scanNesting, List.foldl_nil]
  · rw [scanNesting_of_isNeutral QuoteState.isProper_outside (by simp [Nesting.start]) hs hne]
    rfl

/-- In front of a line, neutral characters change nothing about the scan. -/
theorem scanNesting_start_append_left {s : List Char} (hs : s.all isNeutral = true)
    (t : List Char) : scanNesting .start (s ++ t) = scanNesting .start t := by
  rw [scanNesting_append, scanNesting_start_of_isNeutral hs]

/-- Neutral characters around a text leave open what is open. -/
theorem closers_append_of_isNeutral (s : List Char) {t : List Char} (ht : t.all isNeutral = true) :
    closers (s ++ t) = closers s := by
  by_cases hne : t = []
  · rw [hne, List.append_nil]
  · rw [closers, scanNesting_start_append s ht hne, closers]

theorem closers_append_left {s : List Char} (hs : s.all isNeutral = true) (t : List Char) :
    closers (s ++ t) = closers t := by
  rw [closers, scanNesting_start_append_left hs, closers]

theorem openQuote?_eq_mark? (s : List Char) :
    openQuote? s = (scanNesting .start s).quote.mark? := by
  rw [quote_scanNesting]
  rfl

/-- The characters of a text in front of which the scanner stands outside every literal; the marks
that begin literals are among them. -/
def unquoted (q : QuoteState) : List Char → List Char
  | [] => []
  | c :: s => if q = .outside then c :: unquoted (q.step c) s else unquoted (q.step c) s

theorem unquoted_append (q : QuoteState) (s t : List Char) :
    unquoted q (s ++ t) = unquoted q s ++ unquoted (scanQuotes q s) t := by
  induction s generalizing q with
  | nil => rfl
  | cons c s ih =>
    rw [List.cons_append, unquoted, unquoted, ih, scanQuotes_cons]
    split_ifs <;> rfl

theorem unquoted_of_isPlain {s : List Char} (hs : s.all isPlain = true) :
    unquoted .outside s = s := by
  induction s with
  | nil => rfl
  | cons c s ih =>
    obtain ⟨hc, hs⟩ : isPlain c = true ∧ s.all isPlain = true := by simpa using hs
    rw [unquoted, if_pos rfl, step_of_isPlain QuoteState.isProper_outside hc,
      QuoteState.settle_outside, ih hs]

/-! ## Getting through a text -/

/-- The scanner gets from `q` to `r` through the text and meets no comment sign on the way. -/
inductive Passes : QuoteState → List Char → QuoteState → Prop
  | nil (q : QuoteState) : Passes q [] q
  | cons {q r : QuoteState} {c : Char} {s : List Char} :
      (q = .outside → c ≠ '#') → Passes (q.step c) s r → Passes q (c :: s) r

namespace Passes

variable {q r p : QuoteState} {s t : List Char}

theorem scanQuotes_eq (h : Passes q s r) : scanQuotes q s = r := by
  induction h with
  | nil => rfl
  | cons _ _ ih => exact ih

theorem append (h : Passes q s p) (h' : Passes p t r) : Passes q (s ++ t) r := by
  induction h with
  | nil => exact h'
  | cons hc _ ih => exact .cons hc (ih h')

theorem exists_of_append (h : Passes q (s ++ t) r) : ∃ p, Passes q s p ∧ Passes p t r := by
  induction s generalizing q with
  | nil => exact ⟨q, .nil q, h⟩
  | cons c s ih =>
    cases h with
    | cons hc h =>
      obtain ⟨p, hs, ht⟩ := ih h
      exact ⟨p, .cons hc hs, ht⟩

theorem isProper (h : Passes q s r) (hq : q.IsProper) : r.IsProper :=
  h.scanQuotes_eq ▸ hq.scanQuotes s

end Passes

variable {q r : QuoteState} {s : List Char}

/-- The scanner gets through a text where it stands inside a literal in front of each `#`. -/
theorem passes_iff :
    Passes q s r ↔ scanQuotes q s = r ∧ ∀ a b, s = a ++ '#' :: b → scanQuotes q a ≠ .outside := by
  constructor
  · intro h
    refine ⟨h.scanQuotes_eq, ?_⟩
    rintro a b rfl hout
    obtain ⟨p, ha, hb⟩ := h.exists_of_append
    cases hb with
    | cons hne _ => exact hne (ha.scanQuotes_eq ▸ hout) rfl
  · rintro ⟨hscan, hhash⟩
    induction s generalizing q with
    | nil => exact hscan ▸ .nil q
    | cons c s ih =>
      refine .cons ?_ (ih hscan fun a b e => hhash (c :: a) b (e ▸ rfl))
      rintro hq rfl
      exact hhash [] s rfl hq

theorem passes_of_isPlain (hq : q.IsProper) (hs : s.all isPlain = true) (hne : s ≠ []) :
    Passes q s q.settle := by
  refine passes_iff.2 ⟨scanQuotes_of_isPlain hq hs hne, ?_⟩
  rintro a b rfl
  simp [isPlain] at hs

/-- Plain characters leave the scanner where it stands, but for the reach of a backslash. -/
theorem Passes.settle_eq (h : Passes q s r) (hq : q.IsProper) (hs : s.all isPlain = true) :
    r.settle = q.settle := by
  by_cases hne : s = []
  · subst hne
    cases h
    rfl
  · rw [← h.scanQuotes_eq, scanQuotes_of_isPlain hq hs hne, QuoteState.settle_settle]

/-- Where no backslash reaches on, the scanner stays through plain characters. -/
theorem passes_self (hq : q.IsProper) (hsettle : q.settle = q) (hs : s.all isPlain = true) :
    Passes q s q := by
  by_cases hne : s = []
  · exact hne ▸ .nil q
  · have h := passes_of_isPlain hq hs hne
    rwa [hsettle] at h

theorem passes_outside (hs : s.all isPlain = true) : Passes .outside s .outside :=
  passes_self QuoteState.isProper_outside rfl hs

theorem Passes.of_plain_append {t : List Char} (h : Passes q (s ++ t) r) (hq : q.IsProper)
    (hsettle : q.settle = q) (hs : s.all isPlain = true) : Passes q t r := by
  obtain ⟨p, hp, ht⟩ := h.exists_of_append
  obtain rfl : p = q := hp.scanQuotes_eq.symm.trans (passes_self hq hsettle hs).scanQuotes_eq
  exact ht

/-! ## White space at the ends of a text -/

theorem all_isPlain_takeWhile (s : List Char) : (s.takeWhile isBlank).all isPlain = true :=
  all_isPlain_of_isBlank fun _ => List.mem_takeWhile_imp

theorem all_isPlain_takeEndWhile (s : List Char) :
    (takeEndWhile isBlank s).all isPlain = true :=
  all_isPlain_of_isBlank fun _ => eq_true_of_mem_takeEndWhile

theorem isNeutral_of_isBlank {c : Char} (h : isBlank c = true) : isNeutral c = true := by
  have visible : ∀ d ∈ ['(', '[', '{', ')', ']', '}'], isBlank d = false := by simp [isBlank]
  have hdelimiter : c ∉ ['(', '[', '{', ')', ']', '}'] := by
    intro hc
    simp [visible c hc] at h
  simp [isNeutral, isPlain_of_isBlank h, hdelimiter]

theorem all_isNeutral_of_isBlank {s : List Char} (h : ∀ c ∈ s, isBlank c = true) :
    s.all isNeutral = true :=
  List.all_eq_true.2 fun c hc => isNeutral_of_isBlank (h c hc)

@[simp] theorem scanNesting_start_trimStart (s : List Char) :
    scanNesting .start (trimStart s) = scanNesting .start s := by
  conv_rhs => rw [← takeWhile_append_trimStart s]
  rw [scanNesting_start_append_left (all_isNeutral_of_isBlank fun _ => List.mem_takeWhile_imp)]

/-- White space around a text leaves open what is open. -/
@[simp] theorem closers_trim (s : List Char) : closers (trim s) = closers s := by
  have hend : closers (trimEnd (trimStart s)) = closers (trimStart s) := by
    conv_rhs => rw [← trimEnd_append_takeEndWhile (trimStart s)]
    rw [closers_append_of_isNeutral _
      (all_isNeutral_of_isBlank fun _ => eq_true_of_mem_takeEndWhile)]
  rw [trim, hend, closers, scanNesting_start_trimStart, closers]

theorem Passes.trimStart (h : Passes q s r) (hq : q.IsProper) (hsettle : q.settle = q) :
    Passes q (trimStart s) r := by
  rw [← takeWhile_append_trimStart s] at h
  exact h.of_plain_append hq hsettle (all_isPlain_takeWhile s)

/-- White space at the end counts only where a backslash takes it along. -/
theorem Passes.trimEnd (h : Passes q s r) (hq : q.IsProper) :
    ∃ p, Passes q (trimEnd s) p ∧ p.settle = r.settle := by
  rw [← trimEnd_append_takeEndWhile s] at h
  obtain ⟨p, hp, hblank⟩ := h.exists_of_append
  exact ⟨p, hp, (hblank.settle_eq (hp.isProper hq) (all_isPlain_takeEndWhile s)).symm⟩

theorem Passes.trim (h : Passes q s r) (hq : q.IsProper) (hsettle : q.settle = q) :
    ∃ p, Passes q (trim s) p ∧ p.settle = r.settle :=
  (h.trimStart hq hsettle).trimEnd hq

/-! ## Cuts of a line -/

/-- The second text is the comment of the line that the two make up: there is none, or it begins
with white space that no more white space stands in front of, then the comment sign. -/
inductive IsCut : List Char → List Char → Prop
  | bare {code : List Char} {r : QuoteState} : Passes .outside code r → IsCut code []
  | commented {code gap text : List Char} : Passes .outside code .outside →
      (∀ c ∈ code.getLast?, isBlank c = false) → (∀ c ∈ gap, isBlank c = true) →
      IsCut code (gap ++ '#' :: text)

theorem IsCut.exists_passes {code comment : List Char} (h : IsCut code comment) :
    ∃ r, Passes .outside code r := by
  cases h with
  | bare h => exact ⟨_, h⟩
  | commented h => exact ⟨_, h⟩

theorem IsCut.trimStart {code comment : List Char} (h : IsCut code comment) :
    IsCut (trimStart code) comment := by
  cases h with
  | bare h => exact .bare (h.trimStart QuoteState.isProper_outside rfl)
  | commented h hend hgap =>
    refine .commented (h.trimStart QuoteState.isProper_outside rfl) (fun c hc => hend c ?_) hgap
    rw [← takeWhile_append_trimStart code, List.getLast?_append, Option.mem_def.1 hc]
    rfl

theorem cutAtHash_of_passes (h : Passes q s r) : cutAtHash q s = (s, []) := by
  induction h with
  | nil => rfl
  | cons hc _ ih =>
    rw [cutAtHash, if_neg (not_and.2 hc), ih]

theorem cutAtHash_append_hash (h : Passes q s .outside) (t : List Char) :
    cutAtHash q (s ++ '#' :: t) = (s, '#' :: t) := by
  generalize hr : QuoteState.outside = r at h
  induction h with
  | nil => simp [cutAtHash, ← hr]
  | cons hc _ ih =>
    rw [List.cons_append, cutAtHash, if_neg (not_and.2 hc), ih hr]

/-- A text is passed whole, or up to the comment sign at which it is cut. -/
theorem cutAtHash_cases (q : QuoteState) (s : List Char) :
    (∃ r, Passes q s r) ∨
      ∃ before text, s = before ++ '#' :: text ∧ Passes q before .outside := by
  induction s generalizing q with
  | nil => exact .inl ⟨q, .nil q⟩
  | cons c s ih =>
    by_cases h : q = .outside ∧ c = '#'
    · obtain ⟨rfl, rfl⟩ := h
      exact .inr ⟨[], s, rfl, .nil _⟩
    · obtain ⟨r, hr⟩ | ⟨before, text, rfl, hb⟩ := ih (q.step c)
      · exact .inl ⟨r, .cons (not_and.1 h) hr⟩
      · exact .inr ⟨c :: before, text, rfl, .cons (not_and.1 h) hb⟩

/-- A line that the scanner gets through is code as a whole. -/
theorem Passes.splitComment_eq (h : Passes .outside s r) : splitComment s = (s, []) := by
  rw [splitComment, cutAtHash_of_passes h]

/-- A line is cut into its code and its comment. -/
theorem IsCut.splitComment_eq {code comment : List Char} (h : IsCut code comment) :
    splitComment (code ++ comment) = (code, comment) := by
  cases h with
  | bare h => rw [List.append_nil, h.splitComment_eq]
  | @commented gap text h hend hgap =>
    have hpass : Passes .outside (code ++ gap) .outside :=
      h.append (passes_outside (all_isPlain_of_isBlank hgap))
    rw [← List.append_assoc, splitComment, cutAtHash_append_hash hpass]
    simp only
    rw [Text.trimEnd, dropEndWhile_append_of_getLast? hgap hend,
      takeEndWhile_append_of_getLast? hgap hend]

theorem isCut_splitComment (line : List Char) :
    IsCut (splitComment line).1 (splitComment line).2 := by
  obtain ⟨r, h⟩ | ⟨before, text, rfl, h⟩ := cutAtHash_cases .outside line
  · rw [splitComment, cutAtHash_of_passes h]
    exact .bare h
  · rw [splitComment, cutAtHash_append_hash h]
    obtain ⟨p, hp, hsettle⟩ := h.trimEnd QuoteState.isProper_outside
    obtain rfl : p = .outside := QuoteState.settle_eq_outside_iff.1 hsettle
    exact .commented hp (fun _ => eq_false_of_getLast?_dropEndWhile)
      fun _ => eq_true_of_mem_takeEndWhile

/-- A line has no comment where each `#` on it stands inside a literal. -/
theorem splitComment_eq_self_iff {line : List Char} :
    splitComment line = (line, []) ↔
      ∀ a b, line = a ++ '#' :: b → openQuote? a ≠ none := by
  have inside : ∀ a, openQuote? a ≠ none ↔ scanQuotes .outside a ≠ .outside := fun a =>
    not_congr QuoteState.mark?_eq_none_iff
  simp only [inside]
  constructor
  · intro hcut
    obtain ⟨r, h⟩ := (isCut_splitComment line).exists_passes
    rw [hcut] at h
    exact (passes_iff.1 h).2
  · intro hhash
    exact (passes_iff.2 ⟨rfl, hhash⟩).splitComment_eq

end ScriptPress.Script
