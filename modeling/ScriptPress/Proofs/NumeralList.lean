import ScriptPress.Proofs.DigitRun

/-!
# The numerals of a text

A text is what stands between its numerals together with the list of them: alike texts with the same
numerals are the same, and a numeral is told from the others by how many stand in front of it.

## Main definitions

* `numerals` — the numerals of a text, from left to right.
* `NumberAt` — a numeral of a text with what stands on either side.

## Main statements

* `numerals_append` — a cut that leaves numerals whole.
* `Alike.eq_of_numerals` — alike texts with the same numerals are the same.
* `NumberAt.trichotomy` — of two numerals of a text one stands in front, or they are the same.
-/

namespace ScriptPress.Source

open Text

variable {s t u m front front' d e behind behind' : List Char} {c : Char}
  {R : List Char → List Char → Prop}

def numerals (s : List Char) : List (List Char) := (pieces (!isDigit ·) s).filter (!·.isEmpty)

@[simp] theorem numerals_nil : numerals [] = [] := rfl

theorem numerals_char (hc : isDigit c = false) (s : List Char) :
    numerals (c :: s) = numerals s := by
  simp [numerals, pieces, hc]

theorem numerals_numeral (hd : IsNumeral d) (ht : Halts t) :
    numerals (d ++ t) = d :: numerals t := by
  have hnone : ∀ c ∈ d, (!isDigit c) = false := fun c hc => by simp [hd.digits c hc]
  cases t with
  | nil => simp [numerals, pieces_of_forall hnone, hd.ne_nil, pieces]
  | cons c t =>
    have hc : (!isDigit c) = true := by simpa using ht
    rw [numerals_char (by simpa using hc), numerals, pieces_append_cons t hnone hc]
    simp [numerals, hd.ne_nil]

theorem numerals_eq_nil (h : ∀ c ∈ s, isDigit c = false) : numerals s = [] := by
  induction s with
  | nil => rfl
  | cons c s ih =>
    obtain ⟨hc, hs⟩ := List.forall_mem_cons.1 h
    rw [numerals_char hc, ih hs]

/-- Where no numeral is cut, the numerals of a text are those of its parts. -/
theorem numerals_append (hcut : (∀ c ∈ s.getLast?, isDigit c = false) ∨ Halts t) :
    numerals (s ++ t) = numerals s ++ numerals t := by
  induction s using numeral_induction with
  | nil => rfl
  | char c s hc ih =>
    have hrest : (∀ e ∈ s.getLast?, isDigit e = false) ∨ Halts t := by
      refine hcut.imp_left fun hlast e he => hlast e ?_
      rw [List.getLast?_cons, Option.mem_def.1 he]
      rfl
    rw [List.cons_append, numerals_char hc, numerals_char hc, ih hrest]
  | numeral d s hd hs ih =>
    rw [List.append_assoc, numerals_numeral hd hs]
    by_cases hnil : s = []
    · subst hnil
      have ht : Halts t := by
        refine hcut.resolve_left fun hlast => ?_
        have hdigit := hd.digits _ (List.getLast_mem hd.ne_nil)
        simp [hlast _ (by rw [List.append_nil, List.getLast?_eq_some_getLast hd.ne_nil]; rfl)]
          at hdigit
      rw [List.nil_append, numerals_numeral hd ht]
      rfl
    · have hrest : (∀ e ∈ s.getLast?, isDigit e = false) ∨ Halts t := by
        refine hcut.imp_left fun hlast e he => hlast e ?_
        rwa [List.getLast?_append_of_ne_nil _ hnil]
      rw [numerals_numeral hd (hs.append_left hnil t), ih hrest]
      rfl

/-! ## Alike texts -/

theorem Alike.length_numerals (h : Alike R s t) : (numerals s).length = (numerals t).length := by
  induction h with
  | nil => rfl
  | char hc _ ih => rw [numerals_char hc, numerals_char hc, ih]
  | numeral hd hd' _ hs ht _ ih =>
    rw [numerals_numeral hd hs, numerals_numeral hd' ht, List.length_cons, ih, List.length_cons]

theorem Alike.trans {R' : List Char → List Char → Prop} (h : Alike R s t) (h' : Alike R' t u) :
    Alike (fun _ _ => True) s u := by
  induction h generalizing u with
  | nil =>
    obtain rfl := h'.eq_nil_iff.1 rfl
    exact .nil
  | @char c s t hc _ ih =>
    obtain ⟨u, rfl, hu⟩ := h'.exists_of_append_left (w := [c]) rfl (by simpa using hc)
    exact .char hc (ih hu)
  | numeral hd hd' _ hs ht _ ih =>
    obtain ⟨d', u, rfl, -, hd', hu, halike⟩ := h'.exists_of_numeral rfl hd' ht
    exact .numeral hd hd' trivial hs hu (ih halike)

/-- Alike texts with the same numerals are the same. -/
theorem Alike.eq_of_numerals (h : Alike R s t) (hnumerals : numerals s = numerals t) : s = t := by
  induction h with
  | nil => rfl
  | char hc _ ih =>
    rw [numerals_char hc, numerals_char hc] at hnumerals
    rw [ih hnumerals]
  | numeral hd hd' _ hs ht _ ih =>
    rw [numerals_numeral hd hs, numerals_numeral hd' ht, List.cons.injEq] at hnumerals
    obtain ⟨rfl, hrest⟩ := hnumerals
    rw [ih hrest]

/-! ## One numeral of a text -/

structure NumberAt (s front d behind : List Char) : Prop where
  text : s = front ++ d ++ behind
  numeral : IsNumeral d
  begins : ∀ c ∈ front.getLast?, isDigit c = false
  halts : Halts behind

namespace NumberAt

theorem numerals_eq (h : NumberAt s front d behind) :
    numerals s = numerals front ++ d :: numerals behind := by
  rw [h.text, List.append_assoc, numerals_append (.inl h.begins),
    numerals_numeral h.numeral h.halts]

/-- A numeral is found in the list behind those in front of it. -/
theorem getElem?_numerals (h : NumberAt s front d behind) :
    (numerals s)[(numerals front).length]? = some d := by
  simp [h.numerals_eq]

end NumberAt

/-- A numeral that a text begins with stands in every beginning of the text that does not end in a
digit. -/
theorem IsNumeral.exists_of_append_eq (hd : IsNumeral d) (hm : m ≠ [])
    (hlast : ∀ c ∈ m.getLast?, isDigit c = false) (h : d ++ t = m ++ u) :
    ∃ m', m = d ++ m' ∧ t = m' ++ u := by
  rcases List.append_eq_append_iff.1 h with hlonger | ⟨k, rfl, rfl⟩
  · exact hlonger
  · have hdigit := hd.digits _ (List.mem_append_left k (List.getLast_mem hm))
    simp [hlast _ (List.getLast?_eq_some_getLast hm)] at hdigit

namespace NumberAt

theorem eq_of_front (h : NumberAt s front d behind) (h' : NumberAt s front e behind') :
    d = e ∧ behind = behind' := by
  have htext := h.text.symm.trans h'.text
  rw [List.append_assoc, List.append_assoc, List.append_cancel_left_eq] at htext
  exact numeral_append_inj h.numeral h'.numeral h.halts h'.halts htext

/-- A numeral stands in front of another one where what stands in front of it is shorter. -/
theorem exists_of_front_eq_append (h : NumberAt s front d behind)
    (h' : NumberAt s front' e behind') (hm : m ≠ []) (hfront : front = front' ++ m) :
    ∃ m', front = front' ++ e ++ m' ∧ behind' = m' ++ d ++ behind := by
  have htext := h'.text.symm.trans h.text
  rw [hfront, List.append_assoc, List.append_assoc, List.append_assoc,
    List.append_cancel_left_eq] at htext
  have hlast : ∀ c ∈ m.getLast?, isDigit c = false := by
    intro c hc
    refine h.begins c ?_
    rwa [hfront, List.getLast?_append_of_ne_nil _ hm]
  obtain ⟨m', rfl, hbehind⟩ := h'.numeral.exists_of_append_eq hm hlast htext
  exact ⟨m', by rw [hfront, List.append_assoc], by rw [hbehind, List.append_assoc]⟩

/-- A numeral stands in every end of the text that it is not in front of. -/
theorem of_append_left (h : NumberAt s (u ++ m) d behind) :
    NumberAt (m ++ d ++ behind) m d behind where
  text := rfl
  numeral := h.numeral
  begins := fun c hc => h.begins c (List.mem_getLast?_append_of_mem_getLast? hc)
  halts := h.halts

/-- No numeral begins at a character that is no digit. -/
theorem exists_of_cons (h : NumberAt (c :: s) front d behind) (hc : isDigit c = false) :
    ∃ front', front = c :: front' ∧ s = front' ++ d ++ behind := by
  have htext := h.text
  cases front with
  | nil =>
    have hhalts : Halts (c :: s) := halts_cons.2 hc
    rw [htext, List.nil_append] at hhalts
    exact absurd hhalts (h.numeral.not_halts behind)
  | cons e front =>
    obtain ⟨rfl, rfl⟩ := List.cons.inj htext
    exact ⟨front, rfl, rfl⟩

theorem append_left (h : NumberAt s front d behind)
    (hfront : front = [] → ∀ c ∈ u.getLast?, isDigit c = false) :
    NumberAt (u ++ s) (u ++ front) d behind where
  text := by rw [h.text]; simp
  numeral := h.numeral
  begins := by
    cases front with
    | nil => simpa using hfront rfl
    | cons c front =>
      rw [List.getLast?_append_of_ne_nil _ (by simp)]
      exact h.begins
  halts := h.halts

/-- Of two numerals of a text one stands in front of the other, or they are the same. -/
theorem trichotomy (h : NumberAt s front d behind) (h' : NumberAt s front' e behind') :
    front = front' ∨ (∃ m, front = front' ++ e ++ m ∧ behind' = m ++ d ++ behind) ∨
      ∃ m, front' = front ++ d ++ m ∧ behind = m ++ e ++ behind' := by
  have htext := h.text.symm.trans h'.text
  rw [List.append_assoc, List.append_assoc] at htext
  rcases List.append_eq_append_iff.1 htext with ⟨m, hm, -⟩ | ⟨m, hm, -⟩
  · by_cases hnil : m = []
    · exact .inl (by simp [hm, hnil])
    · exact .inr (.inr (h'.exists_of_front_eq_append h hnil hm))
  · by_cases hnil : m = []
    · exact .inl (by simp [hm, hnil])
    · exact .inr (.inl (h.exists_of_front_eq_append h' hnil hm))

end NumberAt

/-- A text ends in one numeral at most. -/
theorem append_numeral_inj (hd : IsNumeral d) (he : IsNumeral e)
    (hs : ∀ c ∈ s.getLast?, isDigit c = false) (ht : ∀ c ∈ t.getLast?, isDigit c = false)
    (h : s ++ d = t ++ e) : s = t ∧ d = e := by
  have hat : NumberAt (s ++ d) s d [] := ⟨by simp, hd, hs, halts_nil⟩
  have hat' : NumberAt (s ++ d) t e [] := ⟨by simp [h], he, ht, halts_nil⟩
  rcases hat.trichotomy hat' with rfl | ⟨m, -, hm⟩ | ⟨m, -, hm⟩
  · exact ⟨rfl, (hat.eq_of_front hat').1⟩
  · simp [hd.ne_nil] at hm
  · simp [he.ne_nil] at hm

end ScriptPress.Source
