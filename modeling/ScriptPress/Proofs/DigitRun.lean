import Mathlib.Data.List.DropRight
import ScriptPress.Proofs.CharClass
import ScriptPress.Source.FontSize
import ScriptPress.Text.Numeral

/-!
# Texts that differ in their numerals

A numeral is a run of digits with no digit on either side. Two texts are alike where they differ in
their numerals only; cut between two numerals, alike texts fall into alike parts.

## Main definitions

* `IsNumeral`, `Halts` — a run of digits, and a text that does not go on with one.
* `Alike` — the texts differ in their numerals only, each pair of which is related.

## Main statements

* `numeral_append_inj` — a text begins with one numeral at most.
* `Alike.append`, `Alike.exists_of_append` — alike texts in parts.
* `Alike.exists_of_numeral` — alike texts that begin with a numeral.
-/

namespace ScriptPress.Source

open Text

/-! ## Numerals -/

/-- One digit or more, and nothing else. -/
structure IsNumeral (s : List Char) : Prop where
  ne_nil : s ≠ []
  digits : ∀ c ∈ s, isDigit c = true

/-- The text does not begin with a digit. -/
def Halts (s : List Char) : Prop := ∀ c ∈ s.head?, isDigit c = false

variable {d d' s s' t t' : List Char}

@[simp] theorem halts_nil : Halts [] := by simp [Halts]

@[simp] theorem halts_cons {c : Char} : Halts (c :: s) ↔ isDigit c = false := by simp [Halts]

theorem IsNumeral.not_halts (h : IsNumeral d) (s : List Char) : ¬ Halts (d ++ s) := by
  obtain ⟨c, d, rfl⟩ := List.exists_cons_of_ne_nil h.ne_nil
  simp [h.digits c]

theorem halts_of_isBlank (h : ∀ c ∈ s, isBlank c = true) : Halts s := fun c hc =>
  isDigit_of_isBlank (h c (List.mem_of_head? hc))

theorem Halts.append_left (h : Halts s) (hne : s ≠ []) (t : List Char) : Halts (s ++ t) := by
  cases s with
  | nil => exact absurd rfl hne
  | cons c s => simpa using h

theorem Halts.of_append (h : Halts (s ++ t)) : Halts s := by
  cases s with
  | nil => simp
  | cons c s => simpa using h

/-- A text begins with one numeral at most. -/
theorem numeral_append_inj (hd : IsNumeral d) (hd' : IsNumeral d') (hs : Halts s) (hs' : Halts s')
    (h : d ++ s = d' ++ s') : d = d' ∧ s = s' := by
  obtain ⟨htake, hdrop⟩ := takeWhile_append_of_all hd.digits hs
  obtain ⟨htake', hdrop'⟩ := takeWhile_append_of_all hd'.digits hs'
  exact ⟨by rw [← htake, h, htake'], by rw [← hdrop, h, hdrop']⟩

/-- A text that begins with a digit begins with a numeral. -/
theorem exists_numeral (h : ¬ Halts s) : ∃ d t, s = d ++ t ∧ IsNumeral d ∧ Halts t := by
  refine ⟨s.takeWhile isDigit, s.dropWhile isDigit, List.takeWhile_append_dropWhile.symm,
    ⟨?_, fun _ => List.mem_takeWhile_imp⟩, ?_⟩
  · cases s with
    | nil => simp at h
    | cons c s => simpa using h
  · intro c hc
    have hhead := List.head?_dropWhile_not isDigit s
    rw [Option.mem_def.1 hc] at hhead
    simpa using hhead

/-- Induction on the numerals of a text and the characters between them. -/
@[elab_as_elim]
theorem numeral_induction {motive : List Char → Prop} (nil : motive [])
    (char : ∀ c s, isDigit c = false → motive s → motive (c :: s))
    (numeral : ∀ d s, IsNumeral d → Halts s → motive s → motive (d ++ s)) (s : List Char) :
    motive s := by
  induction hlength : s.length using Nat.strong_induction_on generalizing s with
  | _ n ih =>
    by_cases hs : Halts s
    · cases s with
      | nil => exact nil
      | cons c s =>
        exact char c s (halts_cons.1 hs) (ih s.length (by simp [← hlength]) s rfl)
    · obtain ⟨d, t, rfl, hd, ht⟩ := exists_numeral hs
      have hpos := List.length_pos_iff.2 hd.ne_nil
      rw [List.length_append] at hlength
      exact numeral d t hd ht (ih t.length (by omega) t rfl)

theorem digits?_eq_some_iff : digits? s = some d ↔ IsNumeral d ∧ ∃ t, s = d ++ t ∧ Halts t := by
  rw [digits?]
  constructor
  · intro h
    simp only [List.isEmpty_iff, Option.ite_none_left_eq_some, Option.some.injEq] at h
    obtain ⟨hne, rfl⟩ := h
    have hs : ¬ Halts s := by
      cases s with
      | nil => simp at hne
      | cons c s => simpa using hne
    obtain ⟨d, t, rfl, hd, ht⟩ := exists_numeral hs
    rw [(takeWhile_append_of_all hd.digits ht).1]
    exact ⟨hd, t, rfl, ht⟩
  · rintro ⟨hd, t, rfl, ht⟩
    rw [(takeWhile_append_of_all hd.digits ht).1]
    simp [hd.ne_nil]

/-! ## Alike texts -/

/-- The texts differ in their numerals only, and each numeral of the first is related by `R` to that
in its place in the second. -/
inductive Alike (R : List Char → List Char → Prop) : List Char → List Char → Prop
  | nil : Alike R [] []
  | char {c : Char} {s t : List Char} : isDigit c = false → Alike R s t →
      Alike R (c :: s) (c :: t)
  | numeral {d d' s t : List Char} : IsNumeral d → IsNumeral d' → R d d' → Halts s → Halts t →
      Alike R s t → Alike R (d ++ s) (d' ++ t)

namespace Alike

variable {R : List Char → List Char → Prop}

theorem refl (hR : ∀ d, R d d) (s : List Char) : Alike R s s := by
  induction s using numeral_induction with
  | nil => exact .nil
  | char c s hc ih => exact .char hc ih
  | numeral d s hd hs ih => exact .numeral hd hd (hR d) hs hs ih

theorem symm (h : Alike R s t) : Alike (fun d d' => R d' d) t s := by
  induction h with
  | nil => exact .nil
  | char hc _ ih => exact .char hc ih
  | numeral hd hd' hrel hs ht _ ih => exact .numeral hd' hd hrel ht hs ih

/-- Alike texts begin alike. -/
theorem halts_iff (h : Alike R s t) : Halts s ↔ Halts t := by
  cases h with
  | nil => rfl
  | char hc _ => simp [hc]
  | numeral hd hd' _ _ _ _ => exact iff_of_false (hd.not_halts _) (hd'.not_halts _)

/-- What is no digit stands in both texts or in neither. -/
theorem mem_iff (h : Alike R s t) {c : Char} (hc : isDigit c = false) : c ∈ s ↔ c ∈ t := by
  have absent : ∀ {d}, IsNumeral d → c ∉ d := by
    intro d hd hmem
    simp [hd.digits c hmem] at hc
  induction h with
  | nil => rfl
  | char _ _ ih => simp [ih]
  | numeral hd hd' _ _ _ _ ih => simp [absent hd, absent hd', ih]

theorem eq_nil_iff (h : Alike R s t) : s = [] ↔ t = [] := by
  cases h with
  | nil => rfl
  | char => simp
  | numeral hd hd' _ _ _ _ => simp [hd.ne_nil, hd'.ne_nil]

/-- Alike texts behind the same text without a digit are alike. -/
theorem append_left (h : Alike R s t) {w : List Char} (hw : ∀ c ∈ w, isDigit c = false) :
    Alike R (w ++ s) (w ++ t) := by
  induction w with
  | nil => exact h
  | cons c w ih =>
    obtain ⟨hc, hw⟩ := List.forall_mem_cons.1 hw
    exact .char hc (ih hw)

/-- Alike texts make up alike texts where no numeral ends the first pair. -/
theorem append (h : Alike R s t) (hlast : ∀ c ∈ s.getLast?, isDigit c = false)
    (h' : Alike R s' t') : Alike R (s ++ s') (t ++ t') := by
  induction h with
  | nil => exact h'
  | @char c s t hc _ ih =>
    refine .char hc (ih fun e he => hlast e ?_)
    rw [List.getLast?_cons, Option.mem_def.1 he]
    rfl
  | @numeral d d' s t hd hd' hrel hs ht halike ih =>
    have hne : s ≠ [] := by
      rintro rfl
      rw [List.append_nil, List.getLast?_eq_some_getLast hd.ne_nil] at hlast
      simpa [hd.digits _ (List.getLast_mem hd.ne_nil)] using hlast _ rfl
    have hlast' : ∀ e ∈ s.getLast?, isDigit e = false := fun e he => hlast e (by
      rw [List.getLast?_append, Option.mem_def.1 he]
      rfl)
    rw [List.append_assoc, List.append_assoc]
    exact .numeral hd hd' hrel (hs.append_left hne s')
      (ht.append_left (mt halike.eq_nil_iff.2 hne) t') (ih hlast')

/-- What is alike to two parts of a text, cut where no numeral goes on, has two such parts. -/
theorem exists_of_append {v u : List Char} (h : Alike R v u) (hv : v = s ++ s')
    (hcut : (∀ c ∈ s.getLast?, isDigit c = false) ∨ Halts s') :
    ∃ t t', u = t ++ t' ∧ Alike R s t ∧ Alike R s' t' := by
  induction h generalizing s with
  | nil =>
    obtain ⟨rfl, rfl⟩ := List.append_eq_nil_iff.1 hv.symm
    exact ⟨[], [], rfl, .nil, .nil⟩
  | @char c v u hc h ih =>
    cases s with
    | nil =>
      obtain rfl : s' = c :: v := hv.symm
      exact ⟨[], c :: u, rfl, .nil, .char hc h⟩
    | cons e s =>
      obtain ⟨rfl, rfl⟩ := List.cons.inj hv
      obtain ⟨t, t', rfl, ht, ht'⟩ := ih rfl (hcut.imp_left fun hlast c hmem => hlast c (by
        rw [List.getLast?_cons, Option.mem_def.1 hmem]
        rfl))
      exact ⟨c :: t, t', rfl, .char hc ht, ht'⟩
  | @numeral d d' v u hd hd' hrel hhalts hhalts' h ih =>
    rcases List.append_eq_append_iff.1 hv with ⟨m, rfl, rfl⟩ | ⟨m, rfl, rfl⟩
    · obtain ⟨t, t', rfl, ht, ht'⟩ := ih rfl (hcut.imp_left fun hlast c hmem => hlast c (by
        rw [List.getLast?_append, Option.mem_def.1 hmem]
        rfl))
      exact ⟨d' ++ t, t', (List.append_assoc ..).symm,
        .numeral hd hd' hrel hhalts.of_append hhalts'.of_append ht, ht'⟩
    · by_cases hs : s = []
      · subst hs
        exact ⟨[], d' ++ u, rfl, .nil, .numeral hd hd' hrel hhalts hhalts' h⟩
      by_cases hm : m = []
      · subst hm
        rw [List.append_nil] at hd hrel
        refine ⟨d', u, rfl, ?_, h⟩
        simpa using numeral hd hd' hrel halts_nil halts_nil .nil
      · -- A cut inside the numeral is none.
        exfalso
        rcases hcut with hlast | hhalts
        · have hdigit := hd.digits _ (List.mem_append_left m (List.getLast_mem hs))
          simp [hlast _ (List.getLast?_eq_some_getLast hs)] at hdigit
        · obtain ⟨c, m, rfl⟩ := List.exists_cons_of_ne_nil hm
          have hdigit := hd.digits c (by simp)
          simp [halts_cons.1 hhalts] at hdigit

/-- What is alike to a text that begins with a numeral begins with a numeral. -/
theorem exists_of_numeral {v u : List Char} (h : Alike R v u) (hv : v = d ++ s)
    (hd : IsNumeral d) (hs : Halts s) :
    ∃ d' t, u = d' ++ t ∧ R d d' ∧ IsNumeral d' ∧ Halts t ∧ Alike R s t := by
  cases h with
  | nil => exact absurd (List.append_eq_nil_iff.1 hv.symm).1 hd.ne_nil
  | char hc _ => exact absurd (halts_cons.2 hc) (hv ▸ hd.not_halts s)
  | numeral hd₁ hd' hrel hs₁ ht halike =>
    obtain ⟨rfl, rfl⟩ := numeral_append_inj hd₁ hd hs₁ hs hv
    exact ⟨_, _, rfl, hrel, hd', ht, halike⟩

/-- What is alike to a text begins as the text does up to its first numeral. -/
theorem exists_of_append_left {v u w : List Char} (h : Alike R v u) (hv : v = w ++ s)
    (hw : ∀ c ∈ w, isDigit c = false) : ∃ t, u = w ++ t ∧ Alike R s t := by
  induction w generalizing v u with
  | nil =>
    obtain rfl : s = v := hv.symm
    exact ⟨u, rfl, h⟩
  | cons c w ih =>
    obtain ⟨hc, hrest⟩ := List.forall_mem_cons.1 hw
    cases h with
    | nil => cases hv
    | char _ h =>
      obtain ⟨rfl, rfl⟩ := List.cons.inj hv
      obtain ⟨t, rfl, ht⟩ := ih h rfl hrest
      exact ⟨t, rfl, ht⟩
    | numeral hd =>
      have hhalts : Halts (c :: w ++ s) := halts_cons.2 hc
      exact absurd (hv ▸ hhalts) (hd.not_halts _)

theorem eq_of_forall {u w : List Char} (h : Alike R w u) (hw : ∀ c ∈ w, isDigit c = false) :
    u = w := by
  obtain ⟨t, rfl, ht⟩ := h.exists_of_append_left (List.append_nil w).symm hw
  rw [ht.eq_nil_iff.1 rfl, List.append_nil]

end Alike

end ScriptPress.Source
