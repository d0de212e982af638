import ScriptPress.Proofs.NumeralList
import ScriptPress.Proofs.SettledSize

/-!
# Numerals that take the size

A pass gives its size to some numerals of a text and leaves the others. Which ones it takes is said
by one mark for each numeral. The marks of alike texts are the same, so they do not change from pass
to pass, and putting a size into a text that has another one overwrites exactly what was put in
before.

## Main definitions

* `Marks` — the marks of a text for the calls of one kind.
* `overwrite` — a list of numerals with a size where there is a mark.
* `bare` — a text without digits and white space.

## Main statements

* `Marks.numerals_resizeCallsFrom` — what a pass does to the numerals of a text.
* `Marks.of_alike` — alike texts have the same marks.
* `resizeCallsFrom_resizeCallsFrom` — the second pass of a kind overwrites the first.
* `resizeFonts_overwrites` — another size overwrites the first one, and nothing but digits and white
  space changes.
-/

namespace ScriptPress.Source

open Text

variable {kind : SizeKind} {call : SizeCall} {size size' s t : List Char} {marks : List Bool}
  {afterWord : Bool} {R : List Char → List Char → Prop}

/-! ## Marks -/

/-- The marks that the numerals of a text bear where `afterWord` says that a word character stands
in front: the size of a call that a scan meets is marked, and no other numeral is. -/
inductive Marks (kind : SizeKind) : Bool → List Char → List Bool → Prop
  | nil {afterWord : Bool} : Marks kind afterWord [] []
  | call {call : SizeCall} {t : List Char} {marks : List Bool} : kind.Knows call →
      (call.tail = [] → Halts t) → Marks kind call.tail.isEmpty t marks →
      Marks kind false (call.text ++ t)
        (List.replicate (numerals call.lead).length false ++ true :: marks)
  | numeral {afterWord : Bool} {digits t : List Char} {marks : List Bool} : IsNumeral digits →
      Halts t → Marks kind true t marks → Marks kind afterWord (digits ++ t) (false :: marks)
  | char {afterWord : Bool} {c : Char} {t : List Char} {marks : List Bool} : isDigit c = false →
      (afterWord = false → kind.find (c :: t) = none) → Marks kind (isWord c) t marks →
      Marks kind afterWord (c :: t) marks

theorem exists_marks (kind : SizeKind) (afterWord : Bool) (s : List Char) :
    ∃ marks, Marks kind afterWord s marks := by
  have hs := scan kind afterWord s
  induction hs with
  | nil => exact ⟨[], .nil⟩
  | call hknows ht _ _ ih =>
    obtain ⟨marks, hmarks⟩ := ih
    exact ⟨_, .call hknows ht hmarks⟩
  | numeral hdigits ht _ ih =>
    obtain ⟨marks, hmarks⟩ := ih
    exact ⟨_, .numeral hdigits ht hmarks⟩
  | char hc hfind _ ih =>
    obtain ⟨marks, hmarks⟩ := ih
    exact ⟨_, .char hc hfind hmarks⟩

/-- The numerals of a call and of what follows it, with any size in the place of its own. -/
theorem SizeCall.IsSound.numerals_append (h : call.IsSound) {gap digits : List Char}
    (hgap : ∀ c ∈ gap, isBlank c = true) (hdigits : IsNumeral digits)
    (ht : call.tail = [] → Halts t) :
    numerals (call.lead ++ gap ++ digits ++ call.tail ++ t) =
      numerals call.lead ++ digits :: numerals t := by
  have hgap' : ∀ c ∈ gap, isDigit c = false := fun c hc => isDigit_of_isBlank (hgap c hc)
  have hlead : numerals (call.lead ++ (gap ++ (digits ++ (call.tail ++ t)))) =
      numerals call.lead ++ numerals (gap ++ (digits ++ (call.tail ++ t))) :=
    Source.numerals_append (.inl h.isDigit_getLast?)
  have hbehind : numerals (call.tail ++ t) = numerals t := by
    rw [Source.numerals_append, numerals_eq_nil h.tail_isDigit, List.nil_append]
    exact .inl fun c hc => h.tail_isDigit c (List.mem_of_getLast? hc)
  have hfront : numerals (gap ++ (digits ++ (call.tail ++ t))) =
      numerals (digits ++ (call.tail ++ t)) := by
    rw [Source.numerals_append, numerals_eq_nil hgap', List.nil_append]
    exact .inl fun c hc => hgap' c (List.mem_of_getLast? hc)
  simp only [List.append_assoc]
  rw [hlead, hfront, numerals_numeral hdigits (h.halts_tail ht), hbehind]

theorem SizeCall.IsSound.numerals_text (h : call.IsSound) (ht : call.tail = [] → Halts t) :
    numerals (call.text ++ t) = numerals call.lead ++ call.digits :: numerals t :=
  h.numerals_append h.gap h.digits ht

theorem SizeCall.IsSound.numerals_withSize (h : call.IsSound) (hsize : IsNumeral size)
    (ht : call.tail = [] → Halts t) :
    numerals (call.withSize size ++ t) = numerals call.lead ++ size :: numerals t := by
  simpa [SizeCall.withSize] using h.numerals_append (List.forall_mem_nil _) hsize ht

/-- The numerals with the size in place of those that are marked. -/
def overwrite (size : List Char) (marks : List Bool) (ds : List (List Char)) : List (List Char) :=
  List.zipWith (fun marked d => if marked then size else d) marks ds

theorem overwrite_append {marks' : List Bool} {ds ds' : List (List Char)}
    (h : marks.length = ds.length) :
    overwrite size (marks ++ marks') (ds ++ ds') =
      overwrite size marks ds ++ overwrite size marks' ds' :=
  List.zipWith_append h

theorem length_overwrite (size : List Char) (marks : List Bool) (ds : List (List Char)) :
    (overwrite size marks ds).length = min marks.length ds.length := List.length_zipWith

theorem getElem?_overwrite {ds : List (List Char)} (h : marks.length = ds.length) (k : Nat) :
    (overwrite size marks ds)[k]? = if marks[k]? = some true then some size else ds[k]? := by
  rw [overwrite, List.getElem?_zipWith]
  by_cases hk : k < ds.length
  · have hk' : k < marks.length := by omega
    cases hmark : marks[k] <;> simp [hk, hk', hmark]
  · have hk' : ¬ k < marks.length := by omega
    simp [hk, hk']

theorem overwrite_replicate_false (size : List Char) (ds : List (List Char)) :
    overwrite size (List.replicate ds.length false) ds = ds := by
  induction ds with
  | nil => rfl
  | cons d ds ih => exact congrArg (d :: ·) ih

namespace Marks

/-- There is one mark for each numeral. -/
theorem length_eq (h : Marks kind afterWord s marks) : marks.length = (numerals s).length := by
  induction h with
  | nil => rfl
  | call hknows ht _ ih =>
    rw [(kind.sound hknows).numerals_text ht]
    simp [ih]
  | numeral hdigits ht _ ih =>
    rw [numerals_numeral hdigits ht, List.length_cons, ih, List.length_cons]
  | char hc _ _ ih => rw [numerals_char hc, ih]

/-- A pass puts its size in the place of the numerals that are marked. -/
theorem numerals_resizeCallsFrom (h : Marks kind afterWord s marks) (hsize : IsNumeral size) :
    numerals (resizeCallsFrom kind.find size afterWord 0 s) =
      overwrite size marks (numerals s) := by
  induction h with
  | nil => rfl
  | call hknows ht _ ih =>
    have hsound := kind.sound hknows
    rw [resizeCallsFrom_call hknows ht,
      hsound.numerals_withSize hsize fun hnil => halts_resizeCallsFrom.2 (ht hnil),
      hsound.numerals_text ht, overwrite_append (List.length_replicate ..),
      overwrite_replicate_false, ih]
    rfl
  | numeral hdigits ht _ ih =>
    rw [resizeCallsFrom_numeral hdigits, numerals_numeral hdigits ht,
      numerals_numeral hdigits (halts_resizeCallsFrom.2 ht), ih]
    rfl
  | char hc hfind _ ih => rw [resizeCallsFrom_char hfind, numerals_char hc, numerals_char hc, ih]

/-- Alike texts have the same marks. -/
theorem of_alike (h : Marks kind afterWord s marks) (halike : Alike R s t) :
    Marks kind afterWord t marks := by
  induction h generalizing t with
  | nil =>
    obtain rfl := halike.eq_nil_iff.1 rfl
    exact .nil
  | call hknows ht _ ih =>
    obtain ⟨call', t', rfl, hknows', ht', hlead, -, htail, -, halike'⟩ :=
      SizeKind.exists_of_alike hknows ht halike
    rw [hlead.length_numerals]
    exact .call hknows' ht' (htail ▸ ih halike')
  | numeral hdigits ht _ ih =>
    obtain ⟨d', t', rfl, -, hd', ht', halike'⟩ := halike.exists_of_numeral rfl hdigits ht
    exact .numeral hd' ht' (ih halike')
  | @char afterWord c u marks hc hfind _ ih =>
    obtain ⟨t', rfl, halike'⟩ := halike.exists_of_append_left (w := [c]) rfl (by simpa using hc)
    exact .char hc (fun h => SizeKind.find_eq_none_of_alike (hfind h) halike) (ih halike')

end Marks

/-! ## One pass over another -/

/-- What passes with two sizes make of alike texts is alike. -/
theorem Alike.resizeCallsFrom (h : Alike R s t) (hsize : IsNumeral size) (hsize' : IsNumeral size')
    (kind : SizeKind) (afterWord : Bool) :
    Alike (fun _ _ => True) (resizeCallsFrom kind.find size afterWord 0 s)
      (resizeCallsFrom kind.find size' afterWord 0 t) := by
  have hs := scan kind afterWord s
  induction hs generalizing t with
  | nil =>
    obtain rfl := h.eq_nil_iff.1 rfl
    exact .nil
  | call hknows ht _ _ ih =>
    obtain ⟨call', t', rfl, hknows', ht', hlead, -, htail, -, halike⟩ :=
      SizeKind.exists_of_alike hknows ht h
    have hsound := kind.sound hknows
    have hbehind := (ih halike).append_left hsound.tail_isDigit
    have hsizes := Alike.numeral hsize hsize' trivial
      (hsound.halts_tail fun hnil => halts_resizeCallsFrom.2 (ht hnil))
      (hsound.halts_tail fun hnil => halts_resizeCallsFrom.2 (ht' (htail.trans hnil))) hbehind
    have hcall := (hlead.trans (Alike.refl (fun _ => rfl) call'.lead)).append
      hsound.isDigit_getLast? hsizes
    rw [resizeCallsFrom_call hknows ht, resizeCallsFrom_call hknows' ht']
    simpa [SizeCall.withSize, htail] using hcall
  | numeral hdigits ht _ ih =>
    obtain ⟨d', t', rfl, -, hd', ht', halike⟩ := h.exists_of_numeral rfl hdigits ht
    rw [resizeCallsFrom_numeral hdigits, resizeCallsFrom_numeral hd']
    exact .numeral hdigits hd' trivial (halts_resizeCallsFrom.2 ht)
      (halts_resizeCallsFrom.2 ht') (ih halike)
  | @char afterWord c u hc hfind _ ih =>
    obtain ⟨t', rfl, halike⟩ := h.exists_of_append_left (w := [c]) rfl (by simpa using hc)
    have hfind' : afterWord = false → kind.find (c :: t') = none := fun hafter =>
      SizeKind.find_eq_none_of_alike (hfind hafter) h
    rw [resizeCallsFrom_char hfind, List.singleton_append, resizeCallsFrom_char hfind']
    exact .char hc (ih halike)

/-- A second pass finds the calls of the first where no call comes to stand at a character. -/
theorem resizeCallsFrom_resizeCallsFrom (kind : SizeKind) (hsize : IsNumeral size)
    (hnone : ∀ c t, isDigit c = false → kind.find (c :: t) = none →
      kind.find (c :: resizeCallsFrom kind.find size (isWord c) 0 t) = none)
    (size' : List Char) (afterWord : Bool) (s : List Char) :
    resizeCallsFrom kind.find size' afterWord 0 (resizeCallsFrom kind.find size afterWord 0 s) =
      resizeCallsFrom kind.find size' afterWord 0 s := by
  have hs := scan kind afterWord s
  induction hs with
  | nil => rfl
  | @call call t hknows ht _ _ ih =>
    have hknows' : kind.Knows ⟨call.lead, [], size, call.tail⟩ :=
      kind.withoutGap (kind.renumber hknows (Alike.refl (R := fun _ _ => True) (by simp) _) hsize)
    have htext : call.withSize size = SizeCall.text ⟨call.lead, [], size, call.tail⟩ := by
      simp [SizeCall.text, SizeCall.withSize]
    rw [resizeCallsFrom_call hknows ht, resizeCallsFrom_call hknows ht, htext,
      resizeCallsFrom_call hknows' fun hnil => halts_resizeCallsFrom.2 (ht hnil), ih]
    rfl
  | numeral hdigits _ _ ih =>
    rw [resizeCallsFrom_numeral hdigits, resizeCallsFrom_numeral hdigits,
      resizeCallsFrom_numeral hdigits, ih]
  | @char afterWord c t hc hfind _ ih =>
    have hfind' := fun hafter => hnone c t hc (hfind hafter)
    rw [resizeCallsFrom_char hfind, resizeCallsFrom_char hfind, resizeCallsFrom_char hfind', ih]

/-! ## The passes behind the first -/

/-- The passes behind the first one, which change numerals only. -/
def resizeLater (size s : List Char) : List Char :=
  resizeCalls sizeSecond size (resizeCalls sizeLast size (resizeCalls sizeKeyword size s))

theorem resizeFonts_eq_resizeLater (n : Nat) (s : List Char) :
    resizeFonts n s = resizeLater (Nat.toDigits 10 n)
      (resizeCalls sizeOnly (Nat.toDigits 10 n) s) := rfl

theorem alike_resizeLater (hsize : IsNumeral size) (s : List Char) :
    Alike (fun _ _ => True) s (resizeLater size s) := by
  have keyword := alike_resizeCallsFrom SizeKind.isGapless_keyword hsize false s
  have last := alike_resizeCallsFrom SizeKind.isGapless_last hsize false
    (resizeCalls sizeKeyword size s)
  have second := alike_resizeCallsFrom SizeKind.isGapless_second hsize false
    (resizeCalls sizeLast size (resizeCalls sizeKeyword size s))
  exact (keyword.trans last).trans second

/-- The size in place of the numerals that one of the four lists marks. -/
def overwriteAll (size : List Char) (only keyword last second : List Bool)
    (ds : List (List Char)) : List (List Char) :=
  overwrite size second (overwrite size last (overwrite size keyword (overwrite size only ds)))

/-- The marks of a text for the first kind, and for the other kinds those of any text that is alike
behind the first pass, say which numerals take the size. -/
theorem numerals_resizeFonts (n : Nat) {only keyword last second : List Bool}
    (honly : Marks .only false t only) (hkeyword : Marks .keyword false s keyword)
    (hlast : Marks .last false s last) (hsecond : Marks .second false s second)
    (h : Alike R s (resizeCalls sizeOnly (Nat.toDigits 10 n) t)) :
    numerals (resizeFonts n t) =
      overwriteAll (Nat.toDigits 10 n) only keyword last second (numerals t) := by
  have hsize := isNumeral_toDigits n
  have halike := h.trans (alike_resizeCallsFrom SizeKind.isGapless_keyword hsize false _)
  have halike' := halike.trans (alike_resizeCallsFrom SizeKind.isGapless_last hsize false _)
  have hfirst := honly.numerals_resizeCallsFrom hsize
  have hnext := (hkeyword.of_alike h).numerals_resizeCallsFrom hsize
  have hthen := (hlast.of_alike halike).numerals_resizeCallsFrom hsize
  have hend := (hsecond.of_alike halike').numerals_resizeCallsFrom hsize
  refine hend.trans ?_
  rw [hthen, hnext]
  exact congrArg (fun ds => overwrite _ second (overwrite _ last (overwrite _ keyword ds))) hfirst

/-! ## All four kinds -/

def bare (s : List Char) : List Char := s.filter fun c => !isDigit c && !isBlank c

theorem bare_append (s t : List Char) : bare (s ++ t) = bare s ++ bare t := List.filter_append ..

theorem bare_eq_nil (h : ∀ c ∈ s, isBlank c = true ∨ isDigit c = true) : bare s = [] := by
  rw [bare, List.filter_eq_nil_iff]
  intro c hc
  rcases h c hc with hblank | hdigit
  · simp [hblank]
  · simp [hdigit]

theorem IsNumeral.bare_eq_nil (h : IsNumeral s) : bare s = [] :=
  Source.bare_eq_nil fun c hc => .inr (h.digits c hc)

/-- A pass changes nothing but digits and white space. -/
theorem bare_resizeCallsFrom (kind : SizeKind) (hsize : IsNumeral size) (afterWord : Bool)
    (s : List Char) : bare (resizeCallsFrom kind.find size afterWord 0 s) = bare s := by
  have hs := scan kind afterWord s
  induction hs with
  | nil => rfl
  | @call call t hknows ht _ _ ih =>
    have hsound := kind.sound hknows
    have hgap : bare call.gap = [] := bare_eq_nil fun c hc => .inl (hsound.gap c hc)
    rw [resizeCallsFrom_call hknows ht]
    simp only [SizeCall.withSize, SizeCall.text, bare_append, ih, hgap, hsize.bare_eq_nil,
      hsound.digits.bare_eq_nil, List.append_nil]
  | numeral hdigits _ _ ih => rw [resizeCallsFrom_numeral hdigits, bare_append, ih, bare_append]
  | @char afterWord c t _ hfind _ ih =>
    rw [resizeCallsFrom_char hfind, ← List.singleton_append, bare_append, ih, ← bare_append,
      List.singleton_append]

theorem bare_resizeFonts (n : Nat) (s : List Char) : bare (resizeFonts n s) = bare s := by
  have pass := fun kind => bare_resizeCallsFrom kind (isNumeral_toDigits n) false
  exact (pass .second _).trans <| (pass .last _).trans <| (pass .keyword _).trans (pass .only s)

/-- A numeral takes the size where one of the four lists marks it. -/
theorem getElem?_overwriteAll {only keyword last second : List Bool} {ds : List (List Char)}
    (honly : only.length = ds.length) (hkeyword : keyword.length = ds.length)
    (hlast : last.length = ds.length) (hsecond : second.length = ds.length) (k : Nat) :
    (overwriteAll size only keyword last second ds)[k]? =
      if only[k]? = some true ∨ keyword[k]? = some true ∨ last[k]? = some true ∨
        second[k]? = some true then some size else ds[k]? := by
  simp only [overwriteAll, getElem?_overwrite, length_overwrite, honly, hkeyword, hlast, hsecond,
    Nat.min_self]
  by_cases ho : only[k]? = some true <;> by_cases hk : keyword[k]? = some true <;>
    by_cases hl : last[k]? = some true <;> by_cases hs : second[k]? = some true <;>
      simp [ho, hk, hl, hs]

/-- Marks that are put in again leave nothing of another size. -/
theorem overwriteAll_overwriteAll {only keyword last second : List Bool} {ds : List (List Char)}
    (honly : only.length = ds.length) (hkeyword : keyword.length = ds.length)
    (hlast : last.length = ds.length) (hsecond : second.length = ds.length) :
    overwriteAll size only keyword last second
        (overwriteAll size' only keyword last second ds) =
      overwriteAll size only keyword last second ds := by
  have hlength : (overwriteAll size' only keyword last second ds).length = ds.length := by
    simp [overwriteAll, length_overwrite, honly, hkeyword, hlast, hsecond]
  refine List.ext_getElem? fun k => ?_
  rw [getElem?_overwriteAll (by rw [honly, hlength]) (by rw [hkeyword, hlength])
    (by rw [hlast, hlength]) (by rw [hsecond, hlength]),
    getElem?_overwriteAll honly hkeyword hlast hsecond,
    getElem?_overwriteAll honly hkeyword hlast hsecond]
  split <;> rfl

/-- No white space stands in front of a size that the first pass puts in. -/
def IsTight (s : List Char) : Prop :=
  ∀ size, IsNumeral size → Alike (fun _ _ => True) s (resizeCalls sizeOnly size s)

theorem resizeCalls_only_again (hsize : IsNumeral size) (size' s : List Char) :
    resizeCalls sizeOnly size' (resizeCalls sizeOnly size s) = resizeCalls sizeOnly size' s :=
  resizeCallsFrom_resizeCallsFrom .only hsize
    (fun _ _ _ => find_eq_none_resizeCallsFrom_only) size' false s

theorem isTight_resizeCalls_only (hsize : IsNumeral size) (s : List Char) :
    IsTight (resizeCalls sizeOnly size s) := by
  intro size' hsize'
  rw [resizeCalls_only_again hsize]
  exact (Alike.refl (fun _ => rfl) s).resizeCallsFrom hsize hsize' .only false

namespace IsTight

theorem of_alike (h : IsTight s) (halike : Alike R s t) : IsTight t := by
  intro size hsize
  have hboth := halike.resizeCallsFrom hsize hsize .only false
  exact (halike.symm.trans (h size hsize)).trans hboth

theorem alike_resizeFonts (h : IsTight s) (n : Nat) :
    Alike (fun _ _ => True) s (resizeFonts n s) :=
  (h _ (isNumeral_toDigits n)).trans (alike_resizeLater (isNumeral_toDigits n) _)

/-- Behind the first pass all texts are alike, so the second size takes the places of the first. -/
theorem resizeFonts_resizeFonts (h : IsTight s) (m n : Nat) :
    resizeFonts n (resizeFonts m s) = resizeFonts n s := by
  have hfirst := h.alike_resizeFonts m
  have htight := h.of_alike hfirst
  obtain ⟨only, honly⟩ := exists_marks .only false s
  obtain ⟨keyword, hkeyword⟩ := exists_marks .keyword false s
  obtain ⟨last, hlast⟩ := exists_marks .last false s
  obtain ⟨second, hsecond⟩ := exists_marks .second false s
  have halike := ((htight.alike_resizeFonts n).symm.trans hfirst.symm).trans (h.alike_resizeFonts n)
  apply halike.eq_of_numerals
  calc numerals (resizeFonts n (resizeFonts m s))
    _ = overwriteAll (Nat.toDigits 10 n) only keyword last second (numerals (resizeFonts m s)) :=
      numerals_resizeFonts n (honly.of_alike hfirst) hkeyword hlast hsecond
        (hfirst.trans (htight _ (isNumeral_toDigits n)))
    _ = overwriteAll (Nat.toDigits 10 n) only keyword last second (numerals s) := by
      rw [numerals_resizeFonts m honly hkeyword hlast hsecond (h _ (isNumeral_toDigits m)),
        overwriteAll_overwriteAll honly.length_eq hkeyword.length_eq hlast.length_eq
          hsecond.length_eq]
    _ = numerals (resizeFonts n s) :=
      (numerals_resizeFonts n honly hkeyword hlast hsecond (h _ (isNumeral_toDigits n))).symm

end IsTight

/-- Another size overwrites the one that was put in before, and no character but digits and white
space is added, removed or moved. -/
theorem resizeFonts_overwrites (m n : Nat) (s : List Char) :
    resizeFonts n (resizeFonts m s) = resizeFonts n s ∧ bare (resizeFonts n s) = bare s := by
  have hsize := isNumeral_toDigits m
  have hpass : ∀ k, resizeFonts k (resizeCalls sizeOnly (Nat.toDigits 10 m) s) =
      resizeFonts k s := fun k =>
    congrArg (resizeLater (Nat.toDigits 10 k)) (resizeCalls_only_again hsize _ s)
  refine ⟨?_, bare_resizeFonts n s⟩
  rw [← hpass m, (isTight_resizeCalls_only hsize s).resizeFonts_resizeFonts, hpass n]

end ScriptPress.Source
