import ScriptPress.Proofs.NumeralList
import ScriptPress.Proofs.SettledSize

/-!
# White space in front of numerals

The first pass over a script drops white space between a parenthesis and a size. The texts in front
of it and behind it are no longer alike, but every other character still stands in its place: cut in
front of a character that is neither white space nor a digit, such texts fall into parts of the same
kind.

## Main definitions

* `Lead` — what may differ in front of a numeral.
* `Respaced` — the texts differ in their numerals and in white space between an opening parenthesis
  and a numeral.

## Main statements

* `Respaced.exists_of_append_cons` — respaced texts fall into parts.
* `NumberAt.exists_of_respaced` — a numeral stands in the same place in every respaced text.
* `respaced_resizeCalls_only` — what the first pass makes of a text.
-/

namespace ScriptPress.Source

open Text

variable {s s' t u v w x y front d d' e behind : List Char} {c : Char}
  {R : List Char → List Char → Prop}

/-- A character that the front of a text does not hold stands behind it. -/
theorem exists_of_append_eq_append_cons (hc : c ∉ u) (h : u ++ v = s ++ c :: t) :
    ∃ m, s = u ++ m ∧ v = m ++ c :: t := by
  rcases List.append_eq_append_iff.1 h with hm | ⟨m, rfl, hm⟩
  · exact hm
  · cases m with
    | nil => exact ⟨[], by simp, by simpa using hm.symm⟩
    | cons e m =>
      obtain ⟨rfl, -⟩ := List.cons.inj hm
      simp at hc

/-- A character that the end of a text does not hold stands in front of it. -/
theorem exists_of_append_cons_eq_append (hc : c ∉ v) (h : s ++ c :: t = u ++ v) :
    ∃ m, u = s ++ c :: m ∧ t = m ++ v := by
  rcases List.append_eq_append_iff.1 h with ⟨m, rfl, hm⟩ | ⟨m, rfl, rfl⟩
  · cases m with
    | nil =>
      obtain rfl : c :: t = v := hm
      simp at hc
    | cons e m =>
      obtain ⟨rfl, rfl⟩ := List.cons.inj hm
      exact ⟨m, rfl, rfl⟩
  · simp at hc

/-- What may stand directly in front of a numeral in two texts: nothing, or an opening parenthesis
with any white space. -/
inductive Lead : List Char → List Char → Prop
  | none : Lead [] []
  | opening {w w' : List Char} : (∀ c ∈ w, isBlank c = true) → (∀ c ∈ w', isBlank c = true) →
      Lead ('(' :: w) ('(' :: w')

/-- The texts differ in their numerals and in the white space between an opening parenthesis and a
numeral only. -/
inductive Respaced : List Char → List Char → Prop
  | nil : Respaced [] []
  | char {c : Char} {s t : List Char} : isDigit c = false → Respaced s t →
      Respaced (c :: s) (c :: t)
  | numeral {w w' d d' s t : List Char} : Lead w w' → IsNumeral d → IsNumeral d' → Halts s →
      Halts t → Respaced s t → Respaced (w ++ d ++ s) (w' ++ d' ++ t)

theorem Lead.symm (h : Lead s t) : Lead t s := by
  cases h with
  | none => exact .none
  | opening hs ht => exact .opening ht hs

/-- A character of a lead is the parenthesis or white space. -/
theorem Lead.mem (h : Lead s t) (hc : c ∈ s) : c = '(' ∨ isBlank c = true := by
  cases h with
  | none => cases hc
  | opening hs _ => exact (List.mem_cons.1 hc).imp_right (hs c)

theorem Lead.isDigit_eq_false (h : Lead s t) : ∀ c ∈ s, isDigit c = false := by
  intro c hc
  rcases h.mem hc with rfl | hblank
  · decide
  · exact isDigit_of_isBlank hblank

theorem IsNumeral.not_mem (h : IsNumeral d) (hc : isDigit c = false) : c ∉ d := fun hmem => by
  simp [h.digits c hmem] at hc

theorem not_mem_of_isBlank (h : ∀ c ∈ w, isBlank c = true) (hc : isBlank c = false) : c ∉ w :=
  fun hmem => by simp [h c hmem] at hc

/-- A character that is neither white space nor a digit is the first of a lead with its numeral, or
it stands behind the numeral. -/
theorem Lead.exists_of_append_cons (h : Lead w w') (hd : IsNumeral d) (hdigit : isDigit c = false)
    (hblank : isBlank c = false) (hs : s ≠ []) (htext : w ++ d ++ v = s ++ c :: s') :
    ∃ m, s = w ++ d ++ m ∧ v = m ++ c :: s' := by
  cases h with
  | none => exact exists_of_append_eq_append_cons (hd.not_mem hdigit) htext
  | @opening b _ hb _ =>
    obtain ⟨e, s, rfl⟩ := List.exists_cons_of_ne_nil hs
    obtain ⟨rfl, hrest⟩ := List.cons.inj htext
    have hmem : c ∉ b ++ d := by
      simp [not_mem_of_isBlank hb hblank, hd.not_mem hdigit]
    obtain ⟨m, rfl, hm⟩ := exists_of_append_eq_append_cons hmem hrest
    exact ⟨m, rfl, hm⟩

theorem Alike.respaced (h : Alike R s t) : Respaced s t := by
  induction h with
  | nil => exact .nil
  | char hc _ ih => exact .char hc ih
  | numeral hd hd' _ hs ht _ ih => exact .numeral .none hd hd' hs ht ih

namespace Respaced

theorem symm (h : Respaced s t) : Respaced t s := by
  induction h with
  | nil => exact .nil
  | char hc _ ih => exact .char hc ih
  | numeral hlead hd hd' hs ht _ ih => exact .numeral hlead.symm hd' hd ht hs ih

theorem eq_nil_iff (h : Respaced s t) : s = [] ↔ t = [] := by
  cases h with
  | nil => rfl
  | char => simp
  | numeral _ hd hd' _ _ _ => simp [hd.ne_nil, hd'.ne_nil]

theorem append_left (h : Respaced s t) (hw : ∀ c ∈ w, isDigit c = false) :
    Respaced (w ++ s) (w ++ t) := by
  induction w with
  | nil => exact h
  | cons c w ih =>
    obtain ⟨hc, hw⟩ := List.forall_mem_cons.1 hw
    exact .char hc (ih hw)

/-- A character that is neither white space nor a digit stands in both texts or in neither. -/
theorem mem_iff (h : Respaced s t) (hdigit : isDigit c = false) (hblank : isBlank c = false) :
    c ∈ s ↔ c ∈ t := by
  induction h with
  | nil => rfl
  | char _ _ ih => simp [ih]
  | numeral hlead hd hd' _ _ _ ih =>
    have habsent := hd.not_mem hdigit
    have habsent' := hd'.not_mem hdigit
    cases hlead with
    | none => simp [habsent, habsent', ih]
    | opening hw hw' =>
      simp [habsent, habsent', not_mem_of_isBlank hw hblank, not_mem_of_isBlank hw' hblank, ih]

/-- Respaced texts begin alike up to a parenthesis or a numeral. -/
theorem exists_of_append_left (h : Respaced v u) (hv : v = w ++ s)
    (hw : ∀ c ∈ w, isDigit c = false ∧ c ≠ '(') : ∃ t, u = w ++ t ∧ Respaced s t := by
  induction w generalizing v u with
  | nil =>
    obtain rfl : v = s := hv
    exact ⟨u, rfl, h⟩
  | cons c w ih =>
    obtain ⟨⟨hdigit, hopen⟩, hrest⟩ := List.forall_mem_cons.1 hw
    cases h with
    | nil => cases hv
    | char _ h =>
      obtain ⟨rfl, rfl⟩ := List.cons.inj hv
      obtain ⟨t, rfl, ht⟩ := ih h rfl hrest
      exact ⟨t, rfl, ht⟩
    | numeral hlead hd =>
      cases hlead with
      | none =>
        have hhalts : Halts (c :: w ++ s) := halts_cons.2 hdigit
        exact absurd (hv ▸ hhalts) (hd.not_halts _)
      | opening => exact absurd (List.cons.inj hv).1.symm hopen

/-- Respaced texts fall into parts in front of a character that is neither white space nor a
digit. -/
theorem exists_of_append_cons (h : Respaced v u) (hv : v = s ++ c :: s')
    (hdigit : isDigit c = false) (hblank : isBlank c = false) :
    ∃ t t', u = t ++ c :: t' ∧ Respaced s t ∧ Respaced (c :: s') (c :: t') := by
  induction h generalizing s with
  | nil => simp at hv
  | @char e v u he h ih =>
    cases s with
    | nil =>
      obtain ⟨rfl, rfl⟩ := List.cons.inj hv
      exact ⟨[], u, rfl, .nil, .char he h⟩
    | cons e' s =>
      obtain ⟨rfl, rfl⟩ := List.cons.inj hv
      obtain ⟨t, t', rfl, ht, ht'⟩ := ih rfl
      exact ⟨e :: t, t', rfl, .char he ht, ht'⟩
  | @numeral w w' d d' v u hlead hd hd' hhalts hhalts' h ih =>
    cases s with
    | nil =>
      cases hlead with
      | none =>
        have hstart : Halts (c :: s') := halts_cons.2 hdigit
        exact absurd (hv ▸ hstart) (hd.not_halts v)
      | @opening b b' hb hb' =>
        obtain ⟨rfl, rfl⟩ := List.cons.inj hv
        exact ⟨[], b' ++ d' ++ u, rfl, .nil, .numeral (.opening hb hb') hd hd' hhalts hhalts' h⟩
    | cons e s =>
      obtain ⟨m, hs, hm⟩ := hlead.exists_of_append_cons hd hdigit hblank (List.cons_ne_nil e s) hv
      obtain ⟨t, t', rfl, ht, ht'⟩ := ih hm
      have hm' : Halts m := (hm ▸ hhalts).of_append
      exact ⟨w' ++ d' ++ t, t', (List.append_assoc ..).symm,
        hs ▸ .numeral hlead hd hd' hm' hhalts'.of_append ht, ht'⟩

theorem exists_of_cons (h : Respaced (c :: s) u) (hdigit : isDigit c = false)
    (hblank : isBlank c = false) : ∃ t, u = c :: t := by
  obtain ⟨w, t, rfl, hw, -⟩ := h.exists_of_append_cons (s := []) rfl hdigit hblank
  obtain rfl := hw.eq_nil_iff.1 rfl
  exact ⟨t, rfl⟩

theorem ne_nil_of_cons (h : Respaced (c :: s) (c :: t)) (hc : isDigit c = false) (hs : s ≠ []) :
    t ≠ [] := by
  rintro rfl
  generalize hv : c :: s = v at h
  generalize hu : [c] = u at h
  cases h with
  | nil => cases hu
  | char _ h =>
    obtain ⟨-, rfl⟩ := List.cons.inj hu
    obtain ⟨-, rfl⟩ := List.cons.inj hv
    exact hs (h.eq_nil_iff.2 rfl)
  | @numeral w w' d d' s t hlead hd hd' =>
    have hmem : ∀ e ∈ d', e ∈ [c] := fun e he => by simp [hu, he]
    obtain ⟨e, d', rfl⟩ := List.exists_cons_of_ne_nil hd'.ne_nil
    obtain rfl : e = c := by simpa using hmem e
    simp [hd'.digits e] at hc

/-- Only a numeral can stand in the place of a numeral. -/
theorem isNumeral (h : Respaced d u) (hd : IsNumeral d) : IsNumeral u := by
  generalize hv : d = v at h
  cases h with
  | nil => exact absurd hv hd.ne_nil
  | @char c s _ hc =>
    have hhalts : Halts (c :: s) := halts_cons.2 hc
    exact absurd (hv ▸ hhalts) (by simpa using hd.not_halts [])
  | @numeral _ _ e _ s _ hlead he he' hhalts _ h =>
    cases hlead with
    | none =>
      have hparts : d ++ [] = e ++ s := by simpa using hv
      obtain ⟨-, rfl⟩ := numeral_append_inj hd he halts_nil hhalts hparts
      rw [h.eq_nil_iff.1 rfl]
      simpa using he'
    | opening => exact absurd (hv ▸ List.mem_cons_self) (hd.not_mem (c := '(') (by decide))

end Respaced

/-- The numerals of a text that begins as a lead and its numeral do. -/
theorem Lead.numerals_append (h : Lead w w') (hd : IsNumeral d) (ht : Halts t) :
    numerals (w ++ d ++ t) = d :: numerals t := by
  have hw := h.isDigit_eq_false
  rw [List.append_assoc, Source.numerals_append (.inl fun c hc => hw c (List.mem_of_getLast? hc)),
    numerals_eq_nil hw, numerals_numeral hd ht, List.nil_append]

theorem Respaced.length_numerals (h : Respaced s t) :
    (numerals s).length = (numerals t).length := by
  induction h with
  | nil => rfl
  | char hc _ ih => rw [numerals_char hc, numerals_char hc, ih]
  | numeral hlead hd hd' hs ht _ ih =>
    rw [hlead.numerals_append hd hs, hlead.symm.numerals_append hd' ht, List.length_cons, ih,
      List.length_cons]

theorem Lead.numberAt (h : Lead w w') (hd : IsNumeral d) (ht : Halts t) :
    NumberAt (w ++ d ++ t) w d t :=
  ⟨rfl, hd, fun c hc => h.isDigit_eq_false c (List.mem_of_getLast? hc), ht⟩

/-- A numeral of a text has its place in every text that is respaced. -/
theorem NumberAt.exists_of_respaced (h : NumberAt s front d behind) (hst : Respaced s t) :
    ∃ front' d' behind', NumberAt t front' d' behind' ∧
      (numerals front').length = (numerals front).length ∧
      Respaced (front ++ d) (front' ++ d') := by
  induction hst generalizing front with
  | nil =>
    have hnil := h.text
    simp [h.numeral.ne_nil] at hnil
  | @char c s t hc hst ih =>
    obtain ⟨front, rfl, rfl⟩ := h.exists_of_cons hc
    obtain ⟨front', d', behind', h', hlength, hfront⟩ := ih (h.of_append_left (u := [c]))
    refine ⟨c :: front', d', behind', h'.append_left (u := [c]) fun _ => by simpa using hc, ?_,
      .char hc hfront⟩
    rw [numerals_char hc, numerals_char hc, hlength]
  | @numeral w w' e e' s t hlead he he' hs ht hst ih =>
    rcases h.trichotomy (hlead.numberAt he hs) with rfl | ⟨m, rfl, rfl⟩ | ⟨m, rfl, -⟩
    · obtain ⟨rfl, rfl⟩ := h.eq_of_front (hlead.numberAt he hs)
      refine ⟨w', e', t, hlead.symm.numberAt he' ht, ?_, ?_⟩
      · rw [numerals_eq_nil hlead.isDigit_eq_false, numerals_eq_nil hlead.symm.isDigit_eq_false]
      · simpa using Respaced.numeral hlead he he' halts_nil halts_nil .nil
    · obtain ⟨front', d', behind', h', hlength, hfront⟩ := ih h.of_append_left
      have hm : Halts (m ++ d) := hs.of_append
      have hm' : Halts (front' ++ d') := by
        rw [h'.text] at ht
        exact ht.of_append
      have hne : front' ≠ [] := by
        rintro rfl
        exact h'.numeral.not_halts [] (by simpa using hm')
      refine ⟨w' ++ e' ++ front', d', behind', h'.append_left (absurd · hne), ?_, ?_⟩
      · rw [hlead.numerals_append he hm.of_append, hlead.symm.numerals_append he' hm'.of_append,
          List.length_cons, hlength, List.length_cons]
      · rw [List.append_assoc, List.append_assoc (w' ++ e')]
        exact .numeral hlead he he' hm hm' hfront
    · have hdigit := h.numeral.digits _ (List.getLast_mem h.numeral.ne_nil)
      have hnone := hlead.isDigit_eq_false (d.getLast h.numeral.ne_nil) (by simp)
      simp [hdigit] at hnone

/-- The first pass changes sizes, and it drops white space in front of them. -/
theorem respaced_resizeCalls_only {size : List Char} (hsize : IsNumeral size) (afterWord : Bool)
    (s : List Char) :
    Respaced s (resizeCallsFrom SizeKind.only.find size afterWord 0 s) := by
  have hs := scan .only afterWord s
  induction hs with
  | nil => exact .nil
  | @call call t hknows ht _ _ ih =>
    rw [resizeCallsFrom_call hknows ht]
    obtain @⟨lead, gap, digits, @⟨gap', hgap'⟩, hgap, hdigits⟩ := hknows
    have hname : ∀ c ∈ "set_font_size".toList ++ gap', isDigit c = false := by
      intro c hc
      rcases List.mem_append.1 hc with hc | hc
      · exact (by simp [isDigit] : ∀ c ∈ "set_font_size".toList, isDigit c = false) c hc
      · exact isDigit_of_isBlank (hgap' c hc)
    have hrest : Halts (resizeCallsFrom SizeKind.only.find size true 0 t) :=
      halts_resizeCallsFrom.2 (ht rfl)
    have hsizes :=
      Respaced.numeral (.opening hgap (List.forall_mem_nil _)) hdigits hsize (ht rfl) hrest ih
    simpa [SizeCall.text, SizeCall.withSize] using hsizes.append_left hname
  | numeral hdigits ht _ ih =>
    rw [resizeCallsFrom_numeral hdigits]
    exact .numeral .none hdigits hdigits ht (halts_resizeCallsFrom.2 ht) ih
  | char hc hfind _ ih =>
    rw [resizeCallsFrom_char hfind]
    exact .char hc ih

end ScriptPress.Source
