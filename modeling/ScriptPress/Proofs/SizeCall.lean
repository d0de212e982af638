import Mathlib.Data.Option.Basic
import ScriptPress.Proofs.DigitRun
import ScriptPress.Proofs.RawLine

/-!
# Calls that choose a font size

What the recognisers know, said of the text of a call alone: a call is recognised wherever it
stands, unless its size goes on behind it.

## Main definitions

* `IsOpening` — a called name and its opening parenthesis.
* `IsSizeSign`, `HoldsSize` — the name of the size argument with its sign, alone and with a digit.
* `IsSizeFront` — what stands in front of the digits of a first size argument.
* `IsSizeOnly`, `IsSizeKeyword`, `IsSizeLast`, `IsSizeSecond` — the calls of the four kinds.
* `isPositional` — what plain arguments are made of.

## Main statements

* `sizeOnly_eq_some_iff`, `sizeKeyword_eq_some_iff`, `sizeLast_eq_some_iff`,
  `sizeSecond_eq_some_iff` — what the recognisers answer.
-/

namespace ScriptPress.Source

open Text

variable {name s t lead args digits : List Char} {call : SizeCall}

/-! ## Parts of a call -/

/-- A run of white space ends in front of anything else. -/
theorem spanBlank_append {gap : List Char} (hgap : ∀ c ∈ gap, isBlank c = true)
    (ht : ∀ c ∈ t.head?, isBlank c = false) : spanBlank (gap ++ t) = (gap, t) := by
  obtain ⟨htake, hdrop⟩ := takeWhile_append_of_all hgap ht
  rw [spanBlank, htake, hdrop]

theorem spanBlank_spec (s : List Char) :
    s = (spanBlank s).1 ++ (spanBlank s).2 ∧ ∀ c ∈ (spanBlank s).1, isBlank c = true :=
  ⟨List.takeWhile_append_dropWhile.symm, fun _ => List.mem_takeWhile_imp⟩

/-- A called name with white space and the opening parenthesis behind it. -/
inductive IsOpening (name : List Char) : List Char → Prop
  | mk {gap : List Char} : (∀ c ∈ gap, isBlank c = true) → IsOpening name (name ++ gap ++ ['('])

theorem callOf?_eq_some_iff :
    callOf? name s = some (lead, args) ↔ IsOpening name lead ∧ s = lead ++ args := by
  simp only [callOf?, Option.bind_eq_bind, Option.bind_eq_some_iff, Option.pure_def,
    Option.some.injEq, Prod.mk.injEq, startsWith?_eq_some_iff]
  constructor
  · rintro ⟨rest, rfl, args', hrest, rfl, rfl⟩
    obtain ⟨hspan, hgap⟩ := spanBlank_spec rest
    refine ⟨.mk hgap, ?_⟩
    conv_lhs => rw [hspan, hrest]
    simp
  · rintro ⟨⟨hgap⟩, rfl⟩
    rename_i gap
    have hspan : spanBlank (gap ++ '(' :: args) = (gap, '(' :: args) :=
      spanBlank_append hgap (by simp [isBlank])
    exact ⟨gap ++ '(' :: args, by simp, args, by simp [hspan], by simp [hspan], rfl⟩

/-- A numeral is no white space. -/
theorem IsNumeral.isBlank_head? (h : IsNumeral digits) (t : List Char) :
    ∀ c ∈ (digits ++ t).head?, isBlank c = false := by
  obtain ⟨c, digits, rfl⟩ := List.exists_cons_of_ne_nil h.ne_nil
  have hblank : isBlank c = false := by
    rw [Bool.eq_false_iff]
    intro hc
    simpa [isDigit_of_isBlank hc] using h.digits c
  simpa using hblank

/-! ## The first kind -/

/-- A call `set_font_size(12`. -/
inductive IsSizeOnly : SizeCall → Prop
  | mk {lead gap digits : List Char} : IsOpening "set_font_size".toList lead →
      (∀ c ∈ gap, isBlank c = true) → IsNumeral digits → IsSizeOnly ⟨lead, gap, digits, []⟩

theorem sizeOnly_eq_some_iff :
    sizeOnly s = some call ↔
      IsSizeOnly call ∧ ∃ t, s = call.text ++ t ∧ (call.tail = [] → Halts t) := by
  simp only [sizeOnly, Option.bind_eq_bind, Option.bind_eq_some_iff, Option.pure_def,
    Option.some.injEq, Prod.exists, callOf?_eq_some_iff, digits?_eq_some_iff]
  constructor
  · rintro ⟨lead, args, ⟨hlead, rfl⟩, digits, ⟨hdigits, t, hargs, ht⟩, rfl⟩
    obtain ⟨hspan, hgap⟩ := spanBlank_spec args
    refine ⟨.mk hlead hgap hdigits, t, ?_, fun _ => ht⟩
    conv_lhs => rw [hspan, hargs]
    simp [SizeCall.text]
  · rintro ⟨@⟨lead, gap, digits, hlead, hgap, hdigits⟩, t, rfl, ht⟩
    have hspan := spanBlank_append hgap (hdigits.isBlank_head? t)
    refine ⟨lead, gap ++ (digits ++ t), ⟨hlead, by simp [SizeCall.text]⟩, digits, ?_, ?_⟩
    · exact ⟨hdigits, t, by rw [hspan], ht rfl⟩
    · rw [hspan]

/-! ## The second kind -/

/-- The name of the size argument and its sign, white space behind each. -/
inductive IsSizeSign : List Char → Prop
  | mk {gap gap' : List Char} : (∀ c ∈ gap, isBlank c = true) → (∀ c ∈ gap', isBlank c = true) →
      IsSizeSign ("size".toList ++ gap ++ ['='] ++ gap')

/-- A digit stands behind such a sign. -/
def HoldsSize (s : List Char) : Prop :=
  ∃ front sign c t, s = front ++ sign ++ c :: t ∧ IsSizeSign sign ∧ isDigit c = true

/-- The size argument at the beginning of a text. -/
def sizeArgument? (s : List Char) : Option (List Char × List Char) := do
  let rest ← startsWith? "size".toList s
  let (gap, rest) := spanBlank rest
  let rest ← startsWith? ['='] rest
  let (gap', rest) := spanBlank rest
  let digits ← digits? rest
  return ("size".toList ++ gap ++ ['='] ++ gap', digits)

theorem keywordArgument?_cons (c : Char) (s : List Char) :
    keywordArgument? (c :: s) =
      match sizeArgument? (c :: s) with
      | some found => some found
      | none =>
        if c == ')' then none
        else (keywordArgument? s).map fun found => (c :: found.1, found.2) := rfl

theorem sizeArgument?_eq_some_iff {sign : List Char} :
    sizeArgument? s = some (sign, digits) ↔
      IsSizeSign sign ∧ IsNumeral digits ∧ ∃ t, s = sign ++ digits ++ t ∧ Halts t := by
  simp only [sizeArgument?, Option.bind_eq_bind, Option.bind_eq_some_iff, Option.pure_def,
    Option.some.injEq, Prod.mk.injEq, startsWith?_eq_some_iff, digits?_eq_some_iff]
  constructor
  · rintro ⟨rest, rfl, rest', hrest, digits', ⟨hdigits, t, hrest', ht⟩, rfl, rfl⟩
    obtain ⟨hspan, hgap⟩ := spanBlank_spec rest
    obtain ⟨hspan', hgap'⟩ := spanBlank_spec rest'
    refine ⟨.mk hgap hgap', hdigits, t, ?_, ht⟩
    conv_lhs => rw [hspan, hrest, hspan', hrest']
    simp
  · rintro ⟨@⟨gap, gap', hgap, hgap'⟩, hdigits, t, rfl, ht⟩
    have hspan' := spanBlank_append hgap' (hdigits.isBlank_head? t)
    have hspan : spanBlank (gap ++ '=' :: (gap' ++ (digits ++ t))) =
        (gap, '=' :: (gap' ++ (digits ++ t))) := spanBlank_append hgap (by simp [isBlank])
    exact ⟨gap ++ '=' :: (gap' ++ (digits ++ t)), by simp, gap' ++ (digits ++ t), by simp [hspan],
      digits, ⟨hdigits, t, by simp [hspan'], ht⟩, by simp [hspan, hspan'], rfl⟩

theorem IsSizeSign.ne_nil {sign : List Char} (h : IsSizeSign sign) : sign ≠ [] := by
  cases h
  simp

theorem IsSizeSign.isDigit_eq_false {sign : List Char} (h : IsSizeSign sign) :
    ∀ c ∈ sign, isDigit c = false := by
  have letters : ∀ c ∈ "size".toList ++ ['='], isDigit c = false := by
    simp [isDigit]
  cases h with
  | mk hgap hgap' =>
    intro c hc
    simp only [List.mem_append] at hc letters
    rcases hc with ((hc | hc) | hc) | hc
    · exact letters c (.inl hc)
    · exact isDigit_of_isBlank (hgap c hc)
    · exact letters c (.inr hc)
    · exact isDigit_of_isBlank (hgap' c hc)

theorem IsSizeSign.not_mem {sign : List Char} (h : IsSizeSign sign) : ')' ∉ sign := by
  have hclose : isBlank ')' = false := by decide
  cases h with
  | mk hgap hgap' =>
    intro hc
    simp only [List.mem_append] at hc
    rcases hc with ((hc | hc) | hc) | hc
    · simp at hc
    · simp [hgap _ hc] at hclose
    · simp at hc
    · simp [hgap' _ hc] at hclose

theorem IsSizeSign.sizeArgument?_ne_none {sign : List Char} (h : IsSizeSign sign) {c : Char}
    (hc : isDigit c = true) (t : List Char) : sizeArgument? (sign ++ c :: t) ≠ none := by
  cases hdigits : digits? (c :: t) with
  | none => simp [digits?, hc] at hdigits
  | some digits =>
    obtain ⟨hnumeral, rest, hrest, hhalts⟩ := digits?_eq_some_iff.1 hdigits
    have hfound : sizeArgument? (sign ++ c :: t) = some (sign, digits) :=
      sizeArgument?_eq_some_iff.2 ⟨h, hnumeral, rest, by rw [hrest, List.append_assoc], hhalts⟩
    simp [hfound]

theorem IsSizeSign.not_holdsSize {sign : List Char} (h : IsSizeSign sign) : ¬ HoldsSize sign := by
  rintro ⟨front, sign', c, t, hsign, -, hc⟩
  have hdigit := h.isDigit_eq_false c (by simp [hsign])
  simp [hc] at hdigit

/-- What stands in front of the digits of a first size argument: its name and sign at the end, no
closing parenthesis and no other size argument. -/
structure IsSizeFront (front : List Char) : Prop where
  sign : ∃ x sign, front = x ++ sign ∧ IsSizeSign sign
  not_mem : ')' ∉ front
  first : ¬ HoldsSize front

namespace IsSizeFront

variable {front sign digits' t' : List Char} {c : Char}

theorem of_sign (h : IsSizeSign sign) : IsSizeFront sign where
  sign := ⟨[], sign, rfl, h⟩
  not_mem := h.not_mem
  first := h.not_holdsSize

theorem ne_nil (h : IsSizeFront front) : front ≠ [] := by
  obtain ⟨x, sign, rfl, hsign⟩ := h.sign
  exact List.append_ne_nil_of_right_ne_nil x hsign.ne_nil

/-- A character in front at which no size argument stands makes no difference. -/
theorem cons (h : IsSizeFront front) (hclose : c ≠ ')')
    (hhere : sizeArgument? (c :: (front ++ t)) = none) : IsSizeFront (c :: front) where
  sign := by
    obtain ⟨x, sign, rfl, hsign⟩ := h.sign
    exact ⟨c :: x, sign, rfl, hsign⟩
  not_mem := by simpa [h.not_mem] using Ne.symm hclose
  first := by
    rintro ⟨x, sign, d, u, hx, hsign, hd⟩
    cases x with
    | nil =>
      rw [← List.cons_append, hx, List.nil_append, List.append_assoc] at hhere
      exact hsign.sizeArgument?_ne_none hd (u ++ t) hhere
    | cons e x => exact h.first ⟨x, sign, d, u, (List.cons.inj hx).2, hsign, hd⟩

theorem of_cons (h : IsSizeFront (c :: front)) (hdigits : IsNumeral digits) (ht : Halts t)
    (hhere : sizeArgument? (c :: (front ++ digits ++ t)) = none) : IsSizeFront front where
  sign := by
    obtain ⟨x, sign, hx, hsign⟩ := h.sign
    cases x with
    | nil =>
      have hfound := sizeArgument?_eq_some_iff.2 ⟨hsign, hdigits, t, rfl, ht⟩
      rw [← List.nil_append sign, ← hx] at hfound
      exact absurd (hhere.symm.trans hfound) (by simp)
    | cons e x => exact ⟨x, sign, (List.cons.inj hx).2, hsign⟩
  not_mem := fun hmem => h.not_mem (List.mem_cons_of_mem c hmem)
  first := by
    rintro ⟨x, sign, d, u, rfl, hsign, hd⟩
    exact h.first ⟨c :: x, sign, d, u, rfl, hsign, hd⟩

/-- The first size argument of a text is found where it stands. -/
theorem eq_sign (h : IsSizeFront front) (hsign : IsSizeSign sign) (hdigits : IsNumeral digits)
    (hdigits' : IsNumeral digits') (htext : sign ++ digits' ++ t' = front ++ digits ++ t) :
    sign = front := by
  rw [List.append_assoc, List.append_assoc] at htext
  rcases List.append_eq_append_iff.1 htext with ⟨m, rfl, hm⟩ | ⟨m, rfl, hm⟩
  · cases m with
    | nil => exact (List.append_nil sign).symm
    | cons c m =>
      obtain ⟨d, digits', rfl⟩ := List.exists_cons_of_ne_nil hdigits'.ne_nil
      obtain rfl := (List.cons.inj hm).1
      exact absurd ⟨[], sign, d, m, rfl, hsign, hdigits'.digits d (by simp)⟩ h.first
  · cases m with
    | nil => exact List.append_nil front
    | cons c m =>
      obtain ⟨d, digits, rfl⟩ := List.exists_cons_of_ne_nil hdigits.ne_nil
      obtain rfl := (List.cons.inj hm).1
      have hdigit := hsign.isDigit_eq_false d (by simp)
      simp [hdigits.digits d] at hdigit

end IsSizeFront

theorem keywordArgument?_eq_some_iff {front : List Char} :
    keywordArgument? s = some (front, digits) ↔
      IsSizeFront front ∧ IsNumeral digits ∧ ∃ t, s = front ++ digits ++ t ∧ Halts t := by
  induction s generalizing front with
  | nil =>
    refine iff_of_false (by simp [keywordArgument?]) ?_
    rintro ⟨hfront, -, t, h, -⟩
    simp [hfront.ne_nil] at h
  | cons c s ih =>
    rw [keywordArgument?_cons]
    cases hhere : sizeArgument? (c :: s) with
    | none =>
      dsimp only
      split
      · rename_i hclose
        refine iff_of_false (by simp) ?_
        rintro ⟨hfront, -, t, h, -⟩
        obtain ⟨e, front, rfl⟩ := List.exists_cons_of_ne_nil hfront.ne_nil
        obtain rfl := (List.cons.inj h).1
        exact hfront.not_mem (by simp [eq_of_beq hclose])
      · rename_i hclose
        simp only [Option.map_eq_some_iff, Prod.mk.injEq, Prod.exists]
        constructor
        · rintro ⟨front, digits, hfound, rfl, rfl⟩
          obtain ⟨hfront, hdigits, t, rfl, ht⟩ := ih.1 hfound
          rw [List.append_assoc] at hhere
          exact ⟨hfront.cons (by simpa using hclose) hhere, hdigits, t, rfl, ht⟩
        · rintro ⟨hfront, hdigits, t, h, ht⟩
          obtain ⟨e, front, rfl⟩ := List.exists_cons_of_ne_nil hfront.ne_nil
          obtain ⟨rfl, rfl⟩ := List.cons.inj h
          have hrest := hfront.of_cons hdigits ht hhere
          exact ⟨front, digits, ih.2 ⟨hrest, hdigits, t, rfl, ht⟩, rfl, rfl⟩
    | some found =>
      obtain ⟨sign, digits'⟩ := found
      obtain ⟨hsign, hdigits', t', h', ht'⟩ := sizeArgument?_eq_some_iff.1 hhere
      simp only [Option.some.injEq, Prod.mk.injEq]
      constructor
      · rintro ⟨rfl, rfl⟩
        exact ⟨.of_sign hsign, hdigits', t', h', ht'⟩
      · rintro ⟨hfront, hdigits, t, h, ht⟩
        obtain rfl := hfront.eq_sign hsign hdigits hdigits' (h'.symm.trans h)
        rw [h', List.append_assoc, List.append_assoc, List.append_cancel_left_eq] at h
        exact ⟨rfl, (numeral_append_inj hdigits' hdigits ht' ht h).1⟩

/-- A call `set_font("Arial", size=12`. -/
inductive IsSizeKeyword : SizeCall → Prop
  | mk {lead front digits : List Char} : IsOpening "set_font".toList lead → IsSizeFront front →
      IsNumeral digits → IsSizeKeyword ⟨lead ++ front, [], digits, []⟩

theorem sizeKeyword_eq_some_iff :
    sizeKeyword s = some call ↔
      IsSizeKeyword call ∧ ∃ t, s = call.text ++ t ∧ (call.tail = [] → Halts t) := by
  simp only [sizeKeyword, Option.bind_eq_bind, Option.bind_eq_some_iff, Option.pure_def,
    Option.some.injEq, Prod.exists, callOf?_eq_some_iff, keywordArgument?_eq_some_iff]
  constructor
  · rintro ⟨lead, args, ⟨hlead, rfl⟩, front, digits, ⟨hfront, hdigits, t, rfl, ht⟩, rfl⟩
    exact ⟨.mk hlead hfront hdigits, t, by simp [SizeCall.text], fun _ => ht⟩
  · rintro ⟨@⟨lead, front, digits, hlead, hfront, hdigits⟩, t, rfl, ht⟩
    exact ⟨lead, front ++ digits ++ t, ⟨hlead, by simp [SizeCall.text]⟩, front, digits,
      ⟨hfront, hdigits, t, rfl, ht rfl⟩, rfl⟩

/-! ## The third kind -/

/-- Whether a character neither opens nor closes a call and names no argument. -/
def isPositional (c : Char) : Bool := c != '(' && c != ')' && c != '='

theorem isPositional_of_isBlank {c : Char} (h : isBlank c = true) : isPositional c = true := by
  have signs : ∀ d ∈ ['(', ')', '='], isBlank d = false := by simp [isBlank]
  simp only [isPositional, Bool.and_eq_true, bne_iff_ne]
  refine ⟨⟨?_, ?_⟩, ?_⟩ <;> rintro rfl <;> simp_all

theorem isPositional_of_isDigit {c : Char} (h : isDigit c = true) : isPositional c = true := by
  have signs : ∀ d ∈ ['(', ')', '='], isDigit d = false := by simp [isDigit]
  simp only [isPositional, Bool.and_eq_true, bne_iff_ne]
  refine ⟨⟨?_, ?_⟩, ?_⟩ <;> rintro rfl <;> simp_all

/-- A call `set_font("Arial", 12)`. -/
inductive IsSizeLast : SizeCall → Prop
  | mk {lead x gap digits behind : List Char} : IsOpening "set_font".toList lead → x ≠ [] →
      (∀ c ∈ x, isPositional c = true) → (∀ c ∈ gap, isBlank c = true) → IsNumeral digits →
      (∀ c ∈ behind, isBlank c = true) →
      IsSizeLast ⟨lead ++ (x ++ [',']) ++ gap, [], digits, behind ++ [')']⟩

/-- The last argument of a list is what stands behind the last comma. -/
theorem cut_at_last_comma {x w : List Char} (hw : ',' ∉ w) :
    dropEndWhile (· != ',') (x ++ [','] ++ w) = x ++ [','] ∧
      takeEndWhile (· != ',') (x ++ [','] ++ w) = w := by
  have hall : ∀ c ∈ w, (c != ',') = true := by
    intro c hc
    rw [bne_iff_ne]
    rintro rfl
    exact hw hc
  have hlast : ∀ c ∈ (x ++ [',']).getLast?, (c != ',') = false := by simp
  exact ⟨dropEndWhile_append_of_getLast? hall hlast, takeEndWhile_append_of_getLast? hall hlast⟩

/-- What is cut off a list at its last comma, where more than the comma stands in front. -/
theorem exists_of_cut_at_last_comma {plain : List Char}
    (h : 2 ≤ (dropEndWhile (· != ',') plain).length) :
    ∃ x, x ≠ [] ∧ dropEndWhile (· != ',') plain = x ++ [','] := by
  have hcomma : ∀ c ∈ (dropEndWhile (· != ',') plain).getLast?, (c != ',') = false := fun _ =>
    eq_false_of_getLast?_dropEndWhile
  rcases (dropEndWhile (· != ',') plain).eq_nil_or_concat with hnil | ⟨x, c, hx⟩
  · simp [hnil] at h
  · rw [hx] at h hcomma ⊢
    obtain rfl : c = ',' := by simpa using hcomma c (by simp)
    refine ⟨x, ?_, List.concat_eq_append⟩
    rintro rfl
    simp at h

section LastArgument

variable {gap behind : List Char} (hgap : ∀ c ∈ gap, isBlank c = true)
  (hdigits : IsNumeral digits) (hbehind : ∀ c ∈ behind, isBlank c = true)

include hgap hdigits hbehind

theorem isPositional_of_mem_argument : ∀ c ∈ gap ++ (digits ++ behind), isPositional c = true := by
  simp only [List.mem_append]
  rintro c (hc | hc | hc)
  · exact isPositional_of_isBlank (hgap c hc)
  · exact isPositional_of_isDigit (hdigits.digits c hc)
  · exact isPositional_of_isBlank (hbehind c hc)

theorem comma_not_mem_argument : ',' ∉ gap ++ (digits ++ behind) := by
  have hblank : isBlank ',' = false := by decide
  have hdigit : isDigit ',' = false := by decide
  simp only [List.mem_append, not_or]
  refine ⟨fun h => ?_, fun h => ?_, fun h => ?_⟩
  · simp [hgap _ h] at hblank
  · simp [hdigits.digits _ h] at hdigit
  · simp [hbehind _ h] at hblank

end LastArgument

theorem sizeLast_eq_some_iff :
    sizeLast s = some call ↔
      IsSizeLast call ∧ ∃ t, s = call.text ++ t ∧ (call.tail = [] → Halts t) := by
  have hdef : (fun c : Char => c != '(' && c != ')' && c != '=') = isPositional := rfl
  simp only [sizeLast, Option.bind_eq_bind, Option.bind_eq_some_iff, Option.pure_def,
    Option.some.injEq, Prod.exists, callOf?_eq_some_iff, digits?_eq_some_iff, Option.guard_eq_some',
    exists_and_left, exists_const, hdef]
  constructor
  · rintro ⟨lead, args, ⟨hlead, rfl⟩, hclose, hlength, digits, ⟨hdigits, behind, hrest, -⟩, hbehind,
      rfl⟩
    obtain ⟨t, ht⟩ := List.head?_eq_some_iff.1 (eq_of_beq hclose)
    have hargs := List.prefix_iff_eq_append.1 (List.takeWhile_prefix isPositional (l := args))
    have hplain : ∀ c ∈ args.takeWhile isPositional, isPositional c = true := fun _ =>
      List.mem_takeWhile_imp
    generalize args.takeWhile isPositional = plain at *
    obtain ⟨x, hx, hfront⟩ := exists_of_cut_at_last_comma hlength
    have hcut := dropEndWhile_append_takeEndWhile (· != ',') plain
    generalize takeEndWhile (· != ',') plain = last at *
    obtain ⟨hspan, hgap⟩ := spanBlank_spec last
    rw [hfront] at hcut ⊢
    rw [hrest] at hspan hbehind ⊢
    rw [List.drop_left] at hbehind ⊢
    have hx' : ∀ c ∈ x, isPositional c = true := fun c hc => hplain c (by simp [← hcut, hc])
    refine ⟨.mk hlead hx hx' hgap hdigits (List.all_eq_true.1 hbehind), t, ?_, by simp⟩
    rw [← hargs, ht, ← hcut]
    conv_lhs => rw [hspan]
    simp [SizeCall.text]
  · rintro ⟨@⟨lead, x, gap, digits, behind, hlead, hx, hplain, hgap, hdigits, hbehind⟩, t, rfl, -⟩
    have hparts : ∀ c ∈ x ++ [','] ++ (gap ++ (digits ++ behind)), isPositional c = true := by
      have hfront : ∀ c ∈ x ++ [','], isPositional c = true :=
        List.forall_mem_append.2 ⟨hplain, List.forall_mem_singleton.2 (by decide)⟩
      exact List.forall_mem_append.2
        ⟨hfront, isPositional_of_mem_argument hgap hdigits hbehind⟩
    have hclose : ∀ c ∈ (')' :: t).head?, isPositional c = false := by
      rintro c hc
      obtain rfl := Option.some.inj hc
      decide
    have htake := (takeWhile_append_of_all hparts hclose).1
    obtain ⟨hfront, hlast⟩ :=
      cut_at_last_comma (x := x) (comma_not_mem_argument hgap hdigits hbehind)
    have hspan := spanBlank_append hgap (hdigits.isBlank_head? behind)
    refine ⟨lead, x ++ [','] ++ (gap ++ (digits ++ behind)) ++ ')' :: t,
      ⟨hlead, by simp [SizeCall.text]⟩, ?_⟩
    rw [htake, List.drop_left, hfront, hlast, hspan]
    have hlength : 2 ≤ (x ++ [',']).length := by
      have := List.length_pos_iff.2 hx
      rw [List.length_append, List.length_singleton]
      omega
    exact ⟨by simp, hlength, digits, ⟨hdigits, behind, rfl, halts_of_isBlank hbehind⟩,
      by simpa using hbehind, by simp⟩

/-! ## The fourth kind -/

/-- A call `setFont("Helvetica", 12`. -/
inductive IsSizeSecond : SizeCall → Prop
  | mk {lead face gap digits : List Char} : IsOpening "setFont".toList lead → face ≠ [] →
      ',' ∉ face → (∀ c ∈ gap, isBlank c = true) → IsNumeral digits →
      IsSizeSecond ⟨lead ++ face ++ [','] ++ gap, [], digits, []⟩

theorem sizeSecond_eq_some_iff :
    sizeSecond s = some call ↔
      IsSizeSecond call ∧ ∃ t, s = call.text ++ t ∧ (call.tail = [] → Halts t) := by
  simp only [sizeSecond, Option.bind_eq_bind, Option.bind_eq_some_iff, Option.pure_def,
    Option.some.injEq, Prod.exists, callOf?_eq_some_iff, digits?_eq_some_iff,
    startsWith?_eq_some_iff, Option.guard_eq_some', exists_and_left, exists_const]
  constructor
  · rintro ⟨lead, args, ⟨hlead, rfl⟩, hface, rest, hrest, digits, ⟨hdigits, t, hspan, ht⟩, rfl⟩
    have hargs := List.prefix_iff_eq_append.1 (List.takeWhile_prefix (· != ',') (l := args))
    have hcomma : ',' ∉ args.takeWhile (· != ',') := fun h => by
      simpa using List.mem_takeWhile_imp h
    generalize args.takeWhile (· != ',') = face at *
    obtain ⟨hparts, hgap⟩ := spanBlank_spec rest
    refine ⟨.mk hlead (by simpa using hface) hcomma hgap hdigits, t, ?_, fun _ => ht⟩
    rw [← hargs, hrest]
    conv_lhs => rw [hparts, hspan]
    simp [SizeCall.text]
  · rintro ⟨@⟨lead, face, gap, digits, hlead, hne, hmem, hgap, hdigits⟩, t, rfl, ht⟩
    have hface : ∀ c ∈ face, (c != ',') = true := by
      intro c hc
      rw [bne_iff_ne]
      rintro rfl
      exact hmem hc
    have htake := (takeWhile_append_of_all (t := ',' :: (gap ++ (digits ++ t))) hface (by simp)).1
    have hspan := spanBlank_append hgap (hdigits.isBlank_head? t)
    refine ⟨lead, face ++ ',' :: (gap ++ (digits ++ t)), ⟨hlead, by simp [SizeCall.text]⟩, ?_⟩
    rw [htake, List.drop_left]
    exact ⟨by simpa using hne, gap ++ (digits ++ t), rfl, digits,
      ⟨hdigits, t, by rw [hspan], ht rfl⟩, by rw [hspan]⟩

end ScriptPress.Source
