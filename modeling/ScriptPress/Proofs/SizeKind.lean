import ScriptPress.Proofs.SizeCall

/-!
# Kinds of size calls

The four recognisers have the same theory: they know calls by their text, and other numerals in a
call, or another size, make no difference. So a call in a text stands in every text that is alike.

## Main definitions

* `SizeCall.IsSound` — the shape that calls of all kinds have.
* `SizeKind` — a recogniser with the calls that it knows.
* `SizeKind.only`, `SizeKind.keyword`, `SizeKind.last`, `SizeKind.second` — the four kinds.

## Main statements

* `SizeKind.exists_of_alike` — a call is found in every text alike.
-/

namespace ScriptPress.Source

open Text

variable {name s t lead lead' gap digits digits' tail : List Char} {call : SizeCall}
  {R : List Char → List Char → Prop}

/-- A call begins with the letter that all names begin with, and behind the sign in front of its
size it holds white space, the size and at most a closing parenthesis. -/
structure SizeCall.IsSound (call : SizeCall) : Prop where
  head : call.lead.head? = some 's'
  lead : ∃ a c w, call.lead = a ++ c :: w ∧ c ∈ ['(', ',', '='] ∧ ∀ d ∈ w, isBlank d = true
  gap : ∀ c ∈ call.gap, isBlank c = true
  digits : IsNumeral call.digits
  tail : call.tail = [] ∨ ∃ w, call.tail = w ++ [')'] ∧ ∀ c ∈ w, isBlank c = true

/-- A recogniser together with the calls that it knows: it finds them where they stand, the numerals
of a call may be any, and the white space in front of its size may be missing. -/
structure SizeKind where
  find : List Char → Option SizeCall
  Knows : SizeCall → Prop
  find_eq_some_iff : ∀ {s call}, find s = some call ↔
    Knows call ∧ ∃ t, s = call.text ++ t ∧ (call.tail = [] → Halts t)
  sound : ∀ {call}, Knows call → call.IsSound
  renumber : ∀ {R lead gap digits tail lead' digits'}, Knows ⟨lead, gap, digits, tail⟩ →
    Alike R lead lead' → IsNumeral digits' → Knows ⟨lead', gap, digits', tail⟩
  withoutGap : ∀ {lead gap digits tail}, Knows ⟨lead, gap, digits, tail⟩ →
    Knows ⟨lead, [], digits, tail⟩

/-! ## The four kinds -/

theorem IsOpening.head? (h : IsOpening name lead) (hname : name ≠ []) :
    lead.head? = name.head? := by
  obtain ⟨c, name, rfl⟩ := List.exists_cons_of_ne_nil hname
  cases h
  rfl

theorem IsOpening.isDigit_eq_false (h : IsOpening name lead)
    (hname : ∀ c ∈ name, isDigit c = false) : ∀ c ∈ lead, isDigit c = false := by
  cases h with
  | mk hgap =>
    intro c hc
    simp only [List.mem_append, List.mem_singleton] at hc
    rcases hc with (hc | hc) | rfl
    · exact hname c hc
    · exact isDigit_of_isBlank (hgap c hc)
    · decide

/-- `set_font_size(12` -/
def SizeKind.only : SizeKind where
  find := sizeOnly
  Knows := IsSizeOnly
  find_eq_some_iff := sizeOnly_eq_some_iff
  sound := by
    rintro _ @⟨lead, gap, digits, hlead, hgap, hdigits⟩
    refine ⟨hlead.head? (by decide), ?_, hgap, hdigits, .inl rfl⟩
    cases hlead
    exact ⟨_, '(', [], rfl, by decide, by simp⟩
  renumber := by
    rintro R _ _ _ _ lead' digits' @⟨lead, gap, digits, hlead, hgap, hdigits⟩ halike hdigits'
    obtain rfl := halike.eq_of_forall (hlead.isDigit_eq_false (by simp [isDigit]))
    exact .mk hlead hgap hdigits'
  withoutGap := by
    rintro _ _ _ _ @⟨lead, gap, digits, hlead, hgap, hdigits⟩
    exact .mk hlead (by simp) hdigits

theorem IsSizeSign.halts {sign : List Char} (h : IsSizeSign sign) (t : List Char) :
    Halts (sign ++ t) := by
  cases h
  simp only [List.append_assoc]
  exact halts_cons.2 (by decide)

/-- A size argument stands in every text alike. -/
theorem HoldsSize.of_alike (h : HoldsSize s) (halike : Alike R s t) : HoldsSize t := by
  obtain ⟨front, sign, c, rest, rfl, hsign, hc⟩ := h
  obtain ⟨front', u, rfl, -, hu⟩ :=
    halike.exists_of_append (List.append_assoc ..) (.inr (hsign.halts _))
  obtain ⟨v, rfl, hv⟩ := hu.exists_of_append_left rfl hsign.isDigit_eq_false
  cases v with
  | nil => exact absurd (hv.eq_nil_iff.2 rfl) (by simp)
  | cons d v =>
    have hd : ¬ Halts (d :: v) := by
      rw [← hv.halts_iff]
      simp [hc]
    exact ⟨front', sign, d, v, (List.append_assoc ..).symm, hsign, by simpa using hd⟩

theorem IsSizeFront.of_alike (h : IsSizeFront s) (halike : Alike R s t) : IsSizeFront t where
  sign := by
    obtain ⟨x, sign, rfl, hsign⟩ := h.sign
    obtain ⟨x', v, rfl, -, hv⟩ :=
      halike.exists_of_append rfl (.inr (by simpa using hsign.halts []))
    obtain rfl := hv.eq_of_forall hsign.isDigit_eq_false
    exact ⟨x', v, rfl, hsign⟩
  not_mem := mt (halike.mem_iff (by decide)).2 h.not_mem
  first := fun hholds => h.first (hholds.of_alike halike.symm)

/-- `set_font("Arial", size=12` -/
def SizeKind.keyword : SizeKind where
  find := sizeKeyword
  Knows := IsSizeKeyword
  find_eq_some_iff := sizeKeyword_eq_some_iff
  sound := by
    rintro _ @⟨lead, front, digits, hlead, hfront, hdigits⟩
    refine ⟨by simp [hlead.head? (by decide)], ?_, by simp, hdigits, .inl rfl⟩
    obtain ⟨x, _, rfl, @⟨gap, gap', hgap, hgap'⟩⟩ := hfront.sign
    exact ⟨lead ++ (x ++ ("size".toList ++ gap)), '=', gap', by simp, by decide, hgap'⟩
  renumber := by
    rintro R _ _ _ _ lead' digits' @⟨lead, front, digits, hlead, hfront, hdigits⟩ halike hdigits'
    obtain ⟨front', rfl, hfront'⟩ :=
      halike.exists_of_append_left rfl (hlead.isDigit_eq_false (by simp [isDigit]))
    exact .mk hlead (hfront.of_alike hfront') hdigits'
  withoutGap := by
    rintro _ _ _ _ ⟨hlead, hfront, hdigits⟩
    exact .mk hlead hfront hdigits

/-- No digit stands between a comma and the argument behind it. -/
theorem isDigit_of_mem_comma_append (hgap : ∀ c ∈ gap, isBlank c = true) :
    ∀ c ∈ [','] ++ gap, isDigit c = false := by
  intro c hc
  rcases List.mem_append.1 hc with hc | hc
  · obtain rfl := List.mem_singleton.1 hc
    decide
  · exact isDigit_of_isBlank (hgap c hc)

/-- `set_font("Arial", 12)` -/
def SizeKind.last : SizeKind where
  find := sizeLast
  Knows := IsSizeLast
  find_eq_some_iff := sizeLast_eq_some_iff
  sound := by
    rintro _ @⟨lead, x, gap, digits, behind, hlead, hx, hplain, hgap, hdigits, hbehind⟩
    refine ⟨by simp [hlead.head? (by decide)], ?_, by simp, hdigits, .inr ⟨behind, rfl, hbehind⟩⟩
    exact ⟨lead ++ x, ',', gap, by simp, by decide, hgap⟩
  renumber := by
    rintro R _ _ _ _ lead' digits'
      @⟨lead, x, gap, digits, behind, hlead, hx, hplain, hgap, hdigits, hbehind⟩ halike hdigits'
    have hcomma := isDigit_of_mem_comma_append hgap
    rw [List.append_assoc] at halike
    obtain ⟨u, rfl, hu⟩ :=
      halike.exists_of_append_left rfl (hlead.isDigit_eq_false (by simp [isDigit]))
    rw [List.append_assoc] at hu
    obtain ⟨x', v, rfl, hx', hv⟩ := hu.exists_of_append rfl (.inr (halts_cons.2 (by decide)))
    obtain rfl := hv.eq_of_forall hcomma
    have hplain' : ∀ c ∈ x', isPositional c = true := by
      intro c hc
      cases hdigit : isDigit c with
      | true => exact isPositional_of_isDigit hdigit
      | false => exact hplain c ((hx'.mem_iff hdigit).2 hc)
    have hknown := IsSizeLast.mk hlead (mt hx'.eq_nil_iff.2 hx) hplain' hgap hdigits' hbehind
    simpa using hknown
  withoutGap := by
    rintro _ _ _ _ ⟨hlead, hx, hplain, hgap, hdigits, hbehind⟩
    exact .mk hlead hx hplain hgap hdigits hbehind

/-- `setFont("Helvetica", 12` -/
def SizeKind.second : SizeKind where
  find := sizeSecond
  Knows := IsSizeSecond
  find_eq_some_iff := sizeSecond_eq_some_iff
  sound := by
    rintro _ @⟨lead, face, gap, digits, hlead, hne, hmem, hgap, hdigits⟩
    refine ⟨by simp [hlead.head? (by decide)], ?_, by simp, hdigits, .inl rfl⟩
    exact ⟨lead ++ face, ',', gap, by simp, by decide, hgap⟩
  renumber := by
    rintro R _ _ _ _ lead' digits' @⟨lead, face, gap, digits, hlead, hne, hmem, hgap, hdigits⟩
      halike hdigits'
    have hcomma := isDigit_of_mem_comma_append hgap
    rw [List.append_assoc, List.append_assoc] at halike
    obtain ⟨u, rfl, hu⟩ :=
      halike.exists_of_append_left rfl (hlead.isDigit_eq_false (by simp [isDigit]))
    obtain ⟨face', v, rfl, hface, hv⟩ := hu.exists_of_append rfl (.inr (halts_cons.2 (by decide)))
    obtain rfl := hv.eq_of_forall hcomma
    have hmem' : ',' ∉ face' := mt (hface.mem_iff (by decide)).2 hmem
    have hknown := IsSizeSecond.mk hlead (mt hface.eq_nil_iff.2 hne) hmem' hgap hdigits'
    simpa using hknown
  withoutGap := by
    rintro _ _ _ _ ⟨hlead, hne, hmem, hgap, hdigits⟩
    exact .mk hlead hne hmem hgap hdigits

/-! ## Calls in alike texts -/

namespace SizeCall

theorem IsSound.halts_tail (h : call.IsSound) (ht : call.tail = [] → Halts t) :
    Halts (call.tail ++ t) := by
  rcases h.tail with hnil | ⟨w, hw, hblank⟩
  · rw [hnil]
    exact ht hnil
  · rw [hw, List.append_assoc]
    cases w with
    | nil => exact halts_cons.2 (by decide)
    | cons c w => exact halts_cons.2 (isDigit_of_isBlank (hblank c List.mem_cons_self))

/-- No digit ends what stands in front of a size. -/
theorem IsSound.isDigit_getLast? (h : call.IsSound) :
    ∀ c ∈ call.lead.getLast?, isDigit c = false := by
  obtain ⟨a, c, w, hlead, hc, hw⟩ := h.lead
  have signs : ∀ c ∈ ['(', ',', '='], isDigit c = false := by simp [isDigit]
  intro d hd
  rw [hlead, List.getLast?_append_cons] at hd
  rcases List.mem_cons.1 (List.mem_of_getLast? hd) with rfl | hmem
  · exact signs d hc
  · exact isDigit_of_isBlank (hw d hmem)

theorem IsSound.mem_tail (h : call.IsSound) {c : Char} (hc : c ∈ call.tail) :
    isBlank c = true ∨ c = ')' := by
  rcases h.tail with hnil | ⟨w, hw, hblank⟩
  · simp [hnil] at hc
  · rw [hw, List.mem_append, List.mem_singleton] at hc
    exact hc.imp_left (hblank c)

theorem IsSound.tail_isDigit (h : call.IsSound) : ∀ c ∈ call.tail, isDigit c = false := by
  intro c hc
  rcases h.mem_tail hc with hblank | rfl
  · exact isDigit_of_isBlank hblank
  · decide

end SizeCall

namespace SizeKind

variable {kind : SizeKind}

theorem find_append (h : kind.Knows call) (ht : call.tail = [] → Halts t) :
    kind.find (call.text ++ t) = some call :=
  kind.find_eq_some_iff.2 ⟨h, t, rfl, ht⟩

/-- The recogniser finds nothing where no call stands that it knows. -/
theorem find_eq_none_iff : kind.find s = none ↔
    ∀ call t, kind.Knows call → (call.tail = [] → Halts t) → s ≠ call.text ++ t := by
  constructor
  · rintro h call t hknows ht rfl
    simp [find_append hknows ht] at h
  · intro h
    by_contra hfind
    obtain ⟨call, hcall⟩ := Option.ne_none_iff_exists'.1 hfind
    obtain ⟨hknows, t, htext, ht⟩ := kind.find_eq_some_iff.1 hcall
    exact h call t hknows ht htext

/-- All names begin with the same letter. -/
theorem find_eq_none (kind : SizeKind) {c : Char} (hc : c ≠ 's') (t : List Char) :
    kind.find (c :: t) = none := by
  rw [find_eq_none_iff]
  intro call u hknows _ htext
  obtain ⟨lead, hlead⟩ := List.head?_eq_some_iff.1 (kind.sound hknows).head
  rw [SizeCall.text, hlead] at htext
  exact hc (List.cons.inj htext).1

/-- A call stands in every text alike, with other numerals. -/
theorem exists_of_alike (h : kind.Knows call) (ht : call.tail = [] → Halts t)
    (halike : Alike R (call.text ++ t) s) :
    ∃ call' t', s = call'.text ++ t' ∧ kind.Knows call' ∧ (call'.tail = [] → Halts t') ∧
      Alike R call.lead call'.lead ∧ call'.gap = call.gap ∧ call'.tail = call.tail ∧
      R call.digits call'.digits ∧ Alike R t t' := by
  have hsound := kind.sound h
  have hgap : ∀ c ∈ call.gap, isDigit c = false := fun c hc => isDigit_of_isBlank (hsound.gap c hc)
  have htext : call.text ++ t = call.lead ++ (call.gap ++ (call.digits ++ (call.tail ++ t))) := by
    simp [SizeCall.text]
  obtain ⟨lead', u, rfl, hlead, hu⟩ := halike.exists_of_append htext (.inl hsound.isDigit_getLast?)
  obtain ⟨v, rfl, hv⟩ := hu.exists_of_append_left rfl hgap
  obtain ⟨digits', w, rfl, hrel, hdigits, -, hw⟩ :=
    hv.exists_of_numeral rfl hsound.digits (hsound.halts_tail ht)
  obtain ⟨t', rfl, ht'⟩ := hw.exists_of_append_left rfl hsound.tail_isDigit
  exact ⟨⟨lead', call.gap, digits', call.tail⟩, t', by simp [SizeCall.text],
    kind.renumber h hlead hdigits, fun hnil => ht'.halts_iff.1 (ht hnil), hlead, rfl, rfl, hrel, ht'⟩

/-- No call comes to stand where the numerals of a text change. -/
theorem find_eq_none_of_alike (h : kind.find s = none) (halike : Alike R s t) :
    kind.find t = none := by
  rw [find_eq_none_iff] at h ⊢
  rintro call u hknows hu rfl
  obtain ⟨call', u', hs, hknows', hu', -⟩ := exists_of_alike hknows hu halike.symm
  exact h call' u' hknows' hu' hs

end SizeKind

end ScriptPress.Source
