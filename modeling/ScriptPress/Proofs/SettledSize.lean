import ScriptPress.Proofs.SizeKind

/-!
# Sizes put into a script

Putting a size into a script that has it already changes nothing. Each pass finds the calls of its
kind with the new size where it has put it, and the passes behind it change numerals only, to the
same size.

## Main definitions

* `Scan` — what a scan for the calls of one kind meets in a text.
* `Settled` — they all have the size already, without white space in front.

## Main statements

* `scan` — every text can be scanned.
* `alike_resizeCallsFrom` — a pass changes numerals only, unless it drops white space.
* `Settled.resizeCallsFrom_eq` — a settled text is left as it is.
* `settled_resizeCallsFrom` — what a pass makes of a text is settled.
* `Settled.of_alike`, `Settled.trim` — it stays settled.
* `resizeFonts_trim_resizeFonts` — a script with the size put in is left as it is.
-/

namespace ScriptPress.Source

open Text

variable {kind : SizeKind} {P : SizeCall → Prop} {call : SizeCall} {size s t : List Char}
  {afterWord : Bool}

/-! ## The scan -/

/-- What the scan for calls of one kind meets in a text, where `afterWord` says that a word
character stands in front: calls, each of which satisfies `P`, numerals outside the calls and other
characters at which no call stands. -/
inductive Scan (kind : SizeKind) (P : SizeCall → Prop) : Bool → List Char → Prop
  | nil {afterWord : Bool} : Scan kind P afterWord []
  | call {call : SizeCall} {t : List Char} : kind.Knows call → (call.tail = [] → Halts t) →
      P call → Scan kind P call.tail.isEmpty t → Scan kind P false (call.text ++ t)
  | numeral {afterWord : Bool} {digits t : List Char} : IsNumeral digits → Halts t →
      Scan kind P true t → Scan kind P afterWord (digits ++ t)
  | char {afterWord : Bool} {c : Char} {t : List Char} : isDigit c = false →
      (afterWord = false → kind.find (c :: t) = none) → Scan kind P (isWord c) t →
      Scan kind P afterWord (c :: t)

theorem SizeCall.IsSound.length_text_pos (h : call.IsSound) : 0 < call.text.length := by
  have hdigits := List.length_pos_iff.2 h.digits.ne_nil
  simp only [SizeCall.text, List.length_append]
  omega

/-- Every text can be scanned. -/
theorem scan (kind : SizeKind) (afterWord : Bool) (s : List Char) :
    Scan kind (fun _ => True) afterWord s := by
  -- On the length: a call and a numeral take several characters at once.
  induction hlength : s.length using Nat.strong_induction_on generalizing afterWord s with
  | _ n ih =>
    by_cases hs : Halts s
    · cases s with
      | nil => exact .nil
      | cons c s =>
        by_cases hfind : afterWord = false → kind.find (c :: s) = none
        · exact .char (halts_cons.1 hs) hfind (ih s.length (by simp [← hlength]) _ s rfl)
        · obtain ⟨rfl, hsome⟩ := Classical.not_imp.1 hfind
          obtain ⟨call, hcall⟩ := Option.ne_none_iff_exists'.1 hsome
          obtain ⟨hknows, t, htext, ht⟩ := kind.find_eq_some_iff.1 hcall
          have hpos := (kind.sound hknows).length_text_pos
          rw [htext, List.length_append] at hlength
          rw [htext]
          exact .call hknows ht trivial (ih t.length (by omega) _ t rfl)
    · obtain ⟨digits, t, rfl, hdigits, ht⟩ := exists_numeral hs
      have hpos := List.length_pos_iff.2 hdigits.ne_nil
      rw [List.length_append] at hlength
      exact .numeral hdigits ht (ih t.length (by omega) _ t rfl)

/-! ## Resizing along the scan -/

/-- The characters of a call that was found are passed over. -/
theorem resizeCallsFrom_length (find : List Char → Option SizeCall) (size : List Char)
    (afterWord : Bool) (s t : List Char) :
    resizeCallsFrom find size afterWord s.length (s ++ t) =
      resizeCallsFrom find size ((s.getLast?.map isWord).getD afterWord) 0 t := by
  induction s generalizing afterWord with
  | nil => rfl
  | cons c s ih =>
    rw [List.length_cons, List.cons_append, resizeCallsFrom, ih, List.getLast?_cons]
    cases s.getLast? <;> rfl

/-- A digit ends a call, or a closing parenthesis does. -/
theorem SizeCall.IsSound.getLast?_text (h : call.IsSound) :
    ∃ c ∈ call.text.getLast?, isBlank c = false ∧ isWord c = call.tail.isEmpty := by
  have hclose : isBlank ')' = false ∧ isWord ')' = false := by decide
  rcases h.tail with htail | ⟨w, htail, -⟩
  · have hdigit := h.digits.digits _ (List.getLast_mem h.digits.ne_nil)
    refine ⟨call.digits.getLast h.digits.ne_nil, ?_, ?_, ?_⟩
    · rw [SizeCall.text, htail, List.append_nil,
        List.getLast?_append_of_ne_nil _ h.digits.ne_nil,
        List.getLast?_eq_some_getLast h.digits.ne_nil]
      rfl
    · rw [Bool.eq_false_iff]
      intro hblank
      simp [isDigit_of_isBlank hblank] at hdigit
    · rw [isWord_of_isDigit hdigit, htail]
      rfl
  · refine ⟨')', ?_, hclose.1, ?_⟩
    · simp [SizeCall.text, htail]
    · simp [hclose.2, htail]

theorem resizeCallsFrom_call (h : kind.Knows call) (ht : call.tail = [] → Halts t) :
    resizeCallsFrom kind.find size false 0 (call.text ++ t) =
      call.withSize size ++ resizeCallsFrom kind.find size call.tail.isEmpty 0 t := by
  have hfind := SizeKind.find_append h ht
  obtain ⟨e, hlast, -, hword⟩ := (kind.sound h).getLast?_text
  obtain ⟨c, text, htext⟩ := List.exists_cons_of_length_pos (kind.sound h).length_text_pos
  rw [htext, List.cons_append] at hfind
  rw [htext, List.getLast?_cons, Option.mem_some_iff] at hlast
  have hafter : (text.getLast?.map isWord).getD (isWord c) = call.tail.isEmpty := by
    rw [← hword, ← hlast]
    cases text.getLast? <;> rfl
  rw [htext, List.cons_append, resizeCallsFrom]
  simp only [Bool.false_eq_true, if_false, hfind]
  rw [htext, List.length_cons, Nat.add_sub_cancel, resizeCallsFrom_length, hafter]

theorem resizeCallsFrom_char {c : Char} (h : afterWord = false → kind.find (c :: t) = none) :
    resizeCallsFrom kind.find size afterWord 0 (c :: t) =
      c :: resizeCallsFrom kind.find size (isWord c) 0 t := by
  rw [resizeCallsFrom]
  cases afterWord <;> simp_all

theorem resizeCallsFrom_numeral {digits : List Char} (h : IsNumeral digits) :
    resizeCallsFrom kind.find size afterWord 0 (digits ++ t) =
      digits ++ resizeCallsFrom kind.find size true 0 t := by
  obtain ⟨hne, hdigits⟩ := h
  induction digits generalizing afterWord with
  | nil => exact absurd rfl hne
  | cons c digits ih =>
    obtain ⟨hc, hrest⟩ := List.forall_mem_cons.1 hdigits
    have hs : c ≠ 's' := by
      rintro rfl
      exact absurd hc (by decide)
    rw [List.cons_append, resizeCallsFrom_char fun _ => kind.find_eq_none hs _,
      isWord_of_isDigit hc]
    cases digits with
    | nil => rfl
    | cons d digits => rw [ih (by simp) hrest]; rfl

/-- Another size leaves the first character of a text. -/
theorem head?_resizeCallsFrom (kind : SizeKind) (size : List Char) (afterWord : Bool)
    (s : List Char) :
    (resizeCallsFrom kind.find size afterWord 0 s).head? = s.head? := by
  cases scan kind afterWord s with
  | nil => rfl
  | call hknows ht =>
    rw [resizeCallsFrom_call hknows ht]
    obtain ⟨lead, hlead⟩ := List.head?_eq_some_iff.1 (kind.sound hknows).head
    simp [SizeCall.text, SizeCall.withSize, hlead]
  | numeral hdigits =>
    rw [resizeCallsFrom_numeral hdigits]
    obtain ⟨c, digits, rfl⟩ := List.exists_cons_of_ne_nil hdigits.ne_nil
    rfl
  | char _ hfind => rw [resizeCallsFrom_char hfind]; rfl

theorem halts_resizeCallsFrom {afterWord : Bool} :
    Halts (resizeCallsFrom kind.find size afterWord 0 s) ↔ Halts s := by
  rw [Halts, head?_resizeCallsFrom, Halts]

/-- The calls of the kind keep the white space in front of their size. -/
def SizeKind.IsGapless (kind : SizeKind) : Prop := ∀ call, kind.Knows call → call.gap = []

/-- A pass that drops no white space changes numerals only, to the new size. -/
theorem alike_resizeCallsFrom (hgap : kind.IsGapless) (hsize : IsNumeral size)
    (afterWord : Bool) (s : List Char) :
    Alike (fun d d' => d' = d ∨ d' = size) s (resizeCallsFrom kind.find size afterWord 0 s) := by
  have hs := scan kind afterWord s
  induction hs with
  | nil => exact .nil
  | @call call t hknows ht _ _ ih =>
    have hsound := kind.sound hknows
    have hbehind := ih.append_left hsound.tail_isDigit
    have hdigits := Alike.numeral hsound.digits hsize (.inr rfl) (hsound.halts_tail ht)
      (hsound.halts_tail fun h => halts_resizeCallsFrom.2 (ht h)) hbehind
    have hcall := (Alike.refl (fun d => .inl rfl) call.lead).append hsound.isDigit_getLast? hdigits
    rw [resizeCallsFrom_call hknows ht]
    simpa [SizeCall.text, SizeCall.withSize, hgap call hknows] using hcall
  | numeral hdigits ht _ ih =>
    rw [resizeCallsFrom_numeral hdigits]
    exact .numeral hdigits hdigits (.inl rfl) ht (halts_resizeCallsFrom.2 ht) ih
  | char hc hfind _ ih =>
    rw [resizeCallsFrom_char hfind]
    exact .char hc ih

/-! ## Settled texts -/

/-- Every call of the kind has the size already, without white space in front. -/
def Settled (kind : SizeKind) (size : List Char) : Bool → List Char → Prop :=
  Scan kind fun call => call.gap = [] ∧ call.digits = size

/-- A settled text is left as it is. -/
theorem Settled.resizeCallsFrom_eq (h : Settled kind size afterWord s) :
    resizeCallsFrom kind.find size afterWord 0 s = s := by
  induction h with
  | nil => rfl
  | @call call t hknows ht hcall _ ih =>
    rw [resizeCallsFrom_call hknows ht, ih, SizeCall.text, SizeCall.withSize, hcall.1, hcall.2,
      List.append_nil]
  | numeral hdigits _ _ ih => rw [resizeCallsFrom_numeral hdigits, ih]
  | char _ hfind _ ih => rw [resizeCallsFrom_char hfind, ih]

/-- What a pass makes of a text is settled where no call comes to stand at a character. -/
theorem settled_resizeCallsFrom (kind : SizeKind) (hsize : IsNumeral size)
    (hnone : ∀ c t, isDigit c = false → kind.find (c :: t) = none →
      kind.find (c :: resizeCallsFrom kind.find size (isWord c) 0 t) = none)
    (afterWord : Bool) (s : List Char) :
    Settled kind size afterWord (resizeCallsFrom kind.find size afterWord 0 s) := by
  have hs := scan kind afterWord s
  induction hs with
  | nil => exact .nil
  | @call call t hknows ht _ _ ih =>
    have hknows' : kind.Knows ⟨call.lead, [], size, call.tail⟩ :=
      kind.withoutGap (kind.renumber hknows (Alike.refl (R := fun _ _ => True) (by simp) _) hsize)
    have hcall := Scan.call hknows' (fun h => halts_resizeCallsFrom.2 (ht h)) ⟨rfl, rfl⟩ ih
    rw [resizeCallsFrom_call hknows ht]
    simpa [Settled, SizeCall.text, SizeCall.withSize] using hcall
  | numeral hdigits ht _ ih =>
    rw [resizeCallsFrom_numeral hdigits]
    exact .numeral hdigits (halts_resizeCallsFrom.2 ht) ih
  | @char afterWord c t hc hfind _ ih =>
    rw [resizeCallsFrom_char hfind]
    exact .char hc (fun h => hnone c t hc (hfind h)) ih

/-- A settled text stays settled where numerals change to the size. -/
theorem Settled.of_alike (h : Settled kind size afterWord s)
    (halike : Alike (fun d d' => d' = d ∨ d' = size) s t) : Settled kind size afterWord t := by
  induction h generalizing t with
  | nil =>
    obtain rfl := halike.eq_nil_iff.1 rfl
    exact .nil
  | call hknows ht hcall _ ih =>
    obtain ⟨call', t', rfl, hknows', ht', -, hgap, htail, hdigits, halike'⟩ :=
      SizeKind.exists_of_alike hknows ht halike
    refine .call hknows' ht' ⟨hgap.trans hcall.1, ?_⟩ (htail ▸ ih halike')
    simpa [hcall.2] using hdigits
  | numeral hdigits ht _ ih =>
    obtain ⟨d', t', rfl, -, hd', ht', halike'⟩ := halike.exists_of_numeral rfl hdigits ht
    exact .numeral hd' ht' (ih halike')
  | @char afterWord c u hc hfind _ ih =>
    obtain ⟨t', rfl, halike'⟩ :=
      halike.exists_of_append_left (w := [c]) rfl (by simpa using hc)
    exact .char hc (fun h => SizeKind.find_eq_none_of_alike (hfind h) halike) (ih halike')

/-! ## No call comes to stand -/

theorem SizeKind.isGapless_keyword : SizeKind.keyword.IsGapless := by
  rintro _ ⟨⟩
  rfl

theorem SizeKind.isGapless_last : SizeKind.last.IsGapless := by
  rintro _ ⟨⟩
  rfl

theorem SizeKind.isGapless_second : SizeKind.second.IsGapless := by
  rintro _ ⟨⟩
  rfl

theorem SizeKind.IsGapless.settled (hgap : kind.IsGapless) (hsize : IsNumeral size)
    (s : List Char) : Settled kind size false (resizeCalls kind.find size s) := by
  refine settled_resizeCallsFrom kind hsize (fun c t hc hfind => ?_) false s
  exact SizeKind.find_eq_none_of_alike hfind (.char hc (alike_resizeCallsFrom hgap hsize _ t))

/-- What holds no letter that a name begins with has come through a pass as it was. -/
theorem exists_of_resizeCallsFrom_eq_append {w u : List Char} (hw : 's' ∉ w)
    (h : resizeCallsFrom kind.find size afterWord 0 s = w ++ u) :
    ∃ afterWord t, s = w ++ t ∧ resizeCallsFrom kind.find size afterWord 0 t = u := by
  induction w generalizing afterWord s with
  | nil => exact ⟨afterWord, s, rfl, h⟩
  | cons c w ih =>
    obtain ⟨hc, hw⟩ := not_or.1 (mt List.mem_cons.2 hw)
    have hhead := head?_resizeCallsFrom kind size afterWord s
    rw [h, List.cons_append, List.head?_cons] at hhead
    obtain ⟨s, rfl⟩ := List.head?_eq_some_iff.1 hhead.symm
    rw [resizeCallsFrom_char fun _ => kind.find_eq_none (Ne.symm hc) s] at h
    obtain ⟨afterWord, t, rfl, ht⟩ := ih hw (List.cons.inj h).2
    exact ⟨afterWord, t, rfl, ht⟩

/-- The second letter of a name tells it from the word `size`. -/
theorem exists_of_resizeCallsFrom_eq_cons {u : List Char}
    (h : resizeCallsFrom SizeKind.only.find size afterWord 0 s = 's' :: 'i' :: u) :
    ∃ afterWord t, s = 's' :: t ∧
      resizeCallsFrom SizeKind.only.find size afterWord 0 t = 'i' :: u := by
  cases scan SizeKind.only afterWord s with
  | nil => cases h
  | call hknows ht =>
    rw [resizeCallsFrom_call hknows ht] at h
    obtain ⟨⟨hgap⟩⟩ := hknows
    exact absurd (List.cons.inj (List.cons.inj h).2).1 (by decide)
  | numeral hdigits =>
    rw [resizeCallsFrom_numeral hdigits] at h
    have hhalts : Halts ('s' :: 'i' :: u) := halts_cons.2 (by decide)
    exact absurd (h ▸ hhalts) (hdigits.not_halts _)
  | char _ hfind =>
    rw [resizeCallsFrom_char hfind] at h
    obtain ⟨rfl, h⟩ := List.cons.inj h
    exact ⟨_, _, rfl, h⟩

/-- The pass of the first kind, which drops white space, brings no call about either: in the name
that would begin one no call stands. -/
theorem find_eq_none_resizeCallsFrom_only {c : Char}
    (hfind : SizeKind.only.find (c :: t) = none) :
    SizeKind.only.find (c :: resizeCallsFrom SizeKind.only.find size afterWord 0 t) = none := by
  -- White space goes, so the texts are not alike. The name is followed through the pass instead:
  -- up to the `s` of `size` no call can begin, and there none does.
  rw [SizeKind.find_eq_none_iff] at hfind ⊢
  rintro _ v @⟨lead, gap, digits, @⟨gap', hgap'⟩, hgap, hdigits⟩ - htext
  have hs : isBlank 's' = false := by decide
  have hrest : 's' ∉ "ize".toList ++ gap' ++ ['('] ++ gap := by
    simp only [List.mem_append, not_or]
    refine ⟨⟨⟨by decide, fun h => ?_⟩, by decide⟩, fun h => ?_⟩
    · simp [hgap' _ h] at hs
    · simp [hgap _ h] at hs
  have hparts : "set_font_size".toList =
      's' :: ("et_font_".toList ++ 's' :: 'i' :: "ze".toList) := by
    decide
  rw [SizeCall.text, hparts] at htext
  simp only [List.cons_append, List.append_assoc, List.cons.injEq] at htext
  obtain ⟨rfl, hname⟩ := htext
  obtain ⟨_, t, rfl, hletter⟩ := exists_of_resizeCallsFrom_eq_append (by decide) hname
  obtain ⟨_, t, rfl, hword⟩ := exists_of_resizeCallsFrom_eq_cons hletter
  obtain ⟨_, t, rfl, hargs⟩ := exists_of_resizeCallsFrom_eq_append (u := digits ++ v) hrest
    (by simpa using hword)
  have hhalts : ¬ Halts t := by
    rw [← halts_resizeCallsFrom, hargs]
    exact hdigits.not_halts v
  obtain ⟨digits', t, rfl, hdigits', ht⟩ := exists_numeral hhalts
  have hknows : SizeKind.only.Knows ⟨_, gap, digits', []⟩ := .mk ⟨hgap'⟩ hgap hdigits'
  exact hfind _ t hknows (fun _ => ht) (by simp [SizeCall.text])

theorem settled_only (hsize : IsNumeral size) (s : List Char) :
    Settled SizeKind.only size false (resizeCalls sizeOnly size s) :=
  settled_resizeCallsFrom .only hsize (fun _ _ _ => find_eq_none_resizeCallsFrom_only) false s

/-! ## White space at the ends -/

/-- White space behind what ends in another character stands at the end of the rest. -/
theorem exists_of_append_eq_append {x w : List Char} (hx : ∃ c ∈ x.getLast?, isBlank c = false)
    (hw : ∀ c ∈ w, isBlank c = true) (h : x ++ t = s ++ w) : ∃ m, s = x ++ m ∧ t = m ++ w := by
  rcases List.append_eq_append_iff.1 h with hm | ⟨m, rfl, rfl⟩
  · exact hm
  · obtain ⟨c, hc, hblank⟩ := hx
    cases m with
    | nil => exact ⟨[], by simp⟩
    | cons d m =>
      have hmem : c ∈ d :: m := List.mem_of_getLast? (by simpa using hc)
      simp [hw c (List.mem_append_left t hmem)] at hblank

theorem IsNumeral.getLast? (h : IsNumeral s) : ∃ c ∈ s.getLast?, isBlank c = false := by
  refine ⟨_, List.getLast?_eq_some_getLast h.ne_nil, ?_⟩
  rw [Bool.eq_false_iff]
  intro hblank
  have hdigit := h.digits _ (List.getLast_mem h.ne_nil)
  simp [isDigit_of_isBlank hblank] at hdigit

/-- White space behind a text makes no difference to what a scan meets in it. -/
theorem Scan.of_append {v w : List Char} (h : Scan kind P afterWord v) (hv : v = s ++ w)
    (hw : ∀ c ∈ w, isBlank c = true) : Scan kind P afterWord s := by
  induction h generalizing s with
  | nil =>
    obtain ⟨rfl, -⟩ := List.append_eq_nil_iff.1 hv.symm
    exact .nil
  | call hknows ht hcall _ ih =>
    obtain ⟨c, hc, hblank, -⟩ := (kind.sound hknows).getLast?_text
    obtain ⟨m, rfl, rfl⟩ := exists_of_append_eq_append ⟨c, hc, hblank⟩ hw hv
    exact .call hknows (fun h => (ht h).of_append) hcall (ih rfl)
  | numeral hdigits ht _ ih =>
    obtain ⟨m, rfl, rfl⟩ := exists_of_append_eq_append hdigits.getLast? hw hv
    exact .numeral hdigits ht.of_append (ih rfl)
  | @char afterWord c t hc hfind _ ih =>
    cases s with
    | nil => exact .nil
    | cons d s =>
      obtain ⟨rfl, rfl⟩ := List.cons.inj hv
      refine .char hc (fun hafter => ?_) (ih rfl)
      have hnone := hfind hafter
      rw [SizeKind.find_eq_none_iff] at hnone ⊢
      intro call u hknows hu htext
      refine hnone call (u ++ w) hknows (fun hnil => ?_) ?_
      · cases u with
        | nil => exact halts_of_isBlank hw
        | cons e u => exact (hu hnil).append_left (by simp) w
      · rw [← List.append_assoc, ← htext]
        rfl

/-- White space in front of a text makes no difference either. -/
theorem Scan.of_cons {v : List Char} {c : Char} (h : Scan kind P afterWord v) (hv : v = c :: s)
    (hc : isBlank c = true) : Scan kind P false s := by
  cases h with
  | nil => cases hv
  | call hknows =>
    obtain ⟨lead, hlead⟩ := List.head?_eq_some_iff.1 (kind.sound hknows).head
    rw [SizeCall.text, hlead] at hv
    obtain rfl := (List.cons.inj hv).1
    exact absurd hc (by decide)
  | numeral hdigits =>
    have hhalts : Halts (c :: s) := halts_cons.2 (isDigit_of_isBlank hc)
    exact absurd (hv ▸ hhalts) (hdigits.not_halts _)
  | char _ _ h =>
    obtain ⟨rfl, rfl⟩ := List.cons.inj hv
    rwa [isWord_of_isBlank hc] at h

theorem Settled.trim (h : Settled kind size false s) : Settled kind size false (trim s) := by
  have hstart : Settled kind size false (trimStart s) := by
    induction s with
    | nil => exact h
    | cons c s ih =>
      rw [trimStart, List.dropWhile_cons]
      split
      · exact ih (Scan.of_cons h rfl ‹_›)
      · exact h
  refine Scan.of_append hstart (trimEnd_append_takeEndWhile _).symm ?_
  exact fun _ => eq_true_of_mem_takeEndWhile

/-! ## All four kinds -/

theorem isNumeral_toDigits (n : Nat) : IsNumeral (Nat.toDigits 10 n) where
  ne_nil := Nat.toDigits_ne_nil
  digits _ hc := isDigit_of_charIsDigit (Nat.isDigit_of_mem_toDigits (by decide) (by decide) hc)

/-- Every call in a script has the size that was put in. -/
theorem settled_resizeFonts (n : Nat) (s : List Char) :
    ∀ kind ∈ [SizeKind.only, .keyword, .last, .second],
      Settled kind (Nat.toDigits 10 n) false (resizeFonts n s) := by
  have hsize := isNumeral_toDigits n
  have keyword := alike_resizeCallsFrom SizeKind.isGapless_keyword hsize false
  have last := alike_resizeCallsFrom SizeKind.isGapless_last hsize false
  have second := alike_resizeCallsFrom SizeKind.isGapless_second hsize false
  intro kind hkind
  simp only [List.mem_cons, List.not_mem_nil, or_false] at hkind
  rcases hkind with rfl | rfl | rfl | rfl
  · exact ((settled_only hsize s).of_alike (keyword _) |>.of_alike (last _)).of_alike (second _)
  · exact ((SizeKind.isGapless_keyword.settled hsize _).of_alike (last _)).of_alike (second _)
  · exact (SizeKind.isGapless_last.settled hsize _).of_alike (second _)
  · exact SizeKind.isGapless_second.settled hsize _

theorem resizeFonts_eq_self {n : Nat} (h : ∀ kind ∈ [SizeKind.only, .keyword, .last, .second],
    Settled kind (Nat.toDigits 10 n) false s) : resizeFonts n s = s := by
  have keeps : ∀ kind ∈ [SizeKind.only, .keyword, .last, .second],
      resizeCalls kind.find (Nat.toDigits 10 n) s = s := fun kind hkind =>
    (h kind hkind).resizeCallsFrom_eq
  have honly : resizeCalls sizeOnly (Nat.toDigits 10 n) s = s := keeps .only (by simp)
  have hkeyword : resizeCalls sizeKeyword (Nat.toDigits 10 n) s = s := keeps .keyword (by simp)
  have hlast : resizeCalls sizeLast (Nat.toDigits 10 n) s = s := keeps .last (by simp)
  have hsecond : resizeCalls sizeSecond (Nat.toDigits 10 n) s = s := keeps .second (by simp)
  rw [resizeFonts, honly, hkeyword, hlast, hsecond]

/-- A script with the size put in is left as it is, also without the white space at its ends. -/
theorem resizeFonts_trim_resizeFonts (n : Nat) (s : List Char) :
    resizeFonts n (trim (resizeFonts n s)) = trim (resizeFonts n s) :=
  resizeFonts_eq_self fun kind hkind => (settled_resizeFonts n s kind hkind).trim

end ScriptPress.Source
