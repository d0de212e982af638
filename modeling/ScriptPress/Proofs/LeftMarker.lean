import ScriptPress.Proofs.MarkerRemoval
import ScriptPress.Proofs.SettledSize
import ScriptPress.Source.Buffer

/-!
# Markers left in a script

Nothing behind the removal of the markers brings one about or takes one away: a size changes inside
a call only, between characters that no marker holds, and no marker begins or ends in white space.
So a script holds a marker exactly when the removal has left one, and only then does it change when
it is pasted again.

## Main statements

* `holdsMarker_resizeCallsFrom`, `holdsMarker_trim` — putting in a size and trimming keep markers.
* `clean_holdsMarker_iff` — when a script holds a marker, and when it changes once more.
* `halves_joined` — a script with a marker.
-/

namespace ScriptPress.Source

open Text

variable {m s t w x y size : List Char} {c : Char}

/-! ## What markers are made of -/

theorem IsMarker.not_mem {kind : MarkerKind} (h : IsMarker kind m)
    (hc : c ∈ ['(', ',', '=', '.', ')']) : c ∉ m := by
  have signs : ∀ c ∈ ['(', ',', '=', '.', ')'], isDigit c = false ∧ c ∉ "```".toList ∧
      c ∉ "[cite_start]".toList ∧ c ∉ "[cite_end]".toList ∧ c ∉ "[cite: ".toList ∧
      c ∉ "]".toList := by
    simp [isDigit]
  obtain ⟨hdigit, hfence, hstart, hend, hopen, hclose⟩ := signs c hc
  cases h with
  | fence => exact hfence
  | citeStart => exact hstart
  | @citeNumber digits hdigits =>
    have hmem : c ∉ digits := fun h => by simp [hdigits.digits c h] at hdigit
    simp only [List.mem_append, not_or]
    exact ⟨⟨hopen, hmem⟩, hclose⟩
  | citeEnd => exact hend

theorem IsMarker.getLast? {kind : MarkerKind} (h : IsMarker kind m) :
    ∃ c ∈ m.getLast?, isBlank c = false := by
  cases h with
  | fence => exact ⟨'`', by decide, by decide⟩
  | citeStart => exact ⟨']', by decide, by decide⟩
  | citeNumber => exact ⟨']', by rw [List.getLast?_append]; rfl, by decide⟩
  | citeEnd => exact ⟨']', by decide, by decide⟩

theorem isOpener_eq_false (h : isBlank c = true ∨ isDigit c = true) : isOpener c = false := by
  have openers : ∀ c ∈ ['`', '['], isBlank c = false ∧ isDigit c = false := by
    simp [isBlank, isDigit]
  rw [Bool.eq_false_iff]
  intro hopener
  have hmem : c ∈ ['`', '['] := by simpa [isOpener] using hopener
  simp [openers c hmem] at h

theorem prefix_of_append_cons (hc : c ∉ m) (h : m <+: x ++ c :: y) : m <+: x := by
  obtain ⟨r, hr⟩ := h
  rcases List.append_eq_append_iff.1 hr with ⟨k, rfl, -⟩ | ⟨k, rfl, hk⟩
  · exact List.prefix_append _ _
  · cases k with
    | nil => simp
    | cons d k =>
      obtain ⟨rfl, -⟩ := List.cons.inj hk
      exact absurd (by simp) hc

theorem infix_of_append_cons (hm : m ≠ []) (hc : c ∉ m) (h : m <:+: x ++ c :: y) :
    m <:+: x ∨ m <:+: y := by
  induction x with
  | nil =>
    rcases List.infix_cons_iff.1 h with h | h
    · exact absurd (List.prefix_nil.1 (prefix_of_append_cons hc h)) hm
    · exact .inr h
  | cons d x ih =>
    rcases List.infix_cons_iff.1 h with h | h
    · exact .inl (prefix_of_append_cons (x := d :: x) hc h).isInfix
    · exact (ih h).imp_left fun h => h.trans (List.suffix_cons d x).isInfix

/-- A marker stands on one side of a character that no marker holds. -/
theorem holdsMarker_append_cons (hc : c ∈ ['(', ',', '=', '.', ')']) :
    HoldsMarker (x ++ c :: y) ↔ HoldsMarker x ∨ HoldsMarker y := by
  constructor
  · rintro ⟨kind, m, hm, hpart⟩
    exact (infix_of_append_cons hm.ne_nil (hm.not_mem hc) hpart).imp
      (fun h => ⟨kind, m, hm, h⟩) fun h => ⟨kind, m, hm, h⟩
  · rintro (h | h)
    · exact h.mono (List.prefix_append x _).isInfix
    · exact h.mono ((List.suffix_cons c y).trans (List.suffix_append x _)).isInfix

/-- A marker stands behind what does not begin one. -/
theorem holdsMarker_append_left (hx : ∀ c ∈ x, isOpener c = false) :
    HoldsMarker (x ++ y) ↔ HoldsMarker y := by
  refine ⟨?_, fun h => h.mono (List.suffix_append x y).isInfix⟩
  rintro ⟨kind, m, hm, hpart⟩
  refine ⟨kind, m, hm, ?_⟩
  obtain ⟨d, w, rfl, hd⟩ := hm.exists_cons
  induction x with
  | nil => exact hpart
  | cons c x ih =>
    obtain ⟨hc, hx⟩ := List.forall_mem_cons.1 hx
    rcases List.infix_cons_iff.1 hpart with ⟨r, hr⟩ | hpart
    · obtain ⟨rfl, -⟩ := List.cons.inj hr
      simp [hc] at hd
    · exact ih hx hpart

theorem not_holdsMarker_nil : ¬ HoldsMarker [] := by
  rintro ⟨kind, m, hm, hpart⟩
  exact hm.ne_nil (List.infix_nil.1 hpart)

theorem holdsMarker_trim : HoldsMarker (trim s) ↔ HoldsMarker s := by
  have hstart : HoldsMarker (trimStart s) ↔ HoldsMarker s := by
    conv_rhs => rw [← takeWhile_append_trimStart s]
    exact (holdsMarker_append_left fun c hc =>
      isOpener_eq_false (.inl (List.mem_takeWhile_imp hc))).symm
  rw [← hstart, trim]
  refine ⟨fun h => h.mono (dropEndWhile_isPrefix isBlank _).isInfix, ?_⟩
  rintro ⟨kind, m, hm, a, b, hpart⟩
  rw [← trimEnd_append_takeEndWhile (trimStart s)] at hpart
  have hlast : ∃ c ∈ (a ++ m).getLast?, isBlank c = false := by
    rw [List.getLast?_append_of_ne_nil _ hm.ne_nil]
    exact hm.getLast?
  obtain ⟨k, hk, -⟩ :=
    exists_of_append_eq_append hlast (fun _ => eq_true_of_mem_takeEndWhile) hpart
  exact ⟨kind, m, hm, a, k, hk.symm⟩

theorem countP_isOpener_eq_zero (h : ∀ c ∈ s, isOpener c = false) : s.countP isOpener = 0 := by
  simpa [List.countP_eq_zero] using h

theorem countP_isOpener_trim : (trim s).countP isOpener = s.countP isOpener := by
  have hstart : (trimStart s).countP isOpener = s.countP isOpener := by
    conv_rhs => rw [← takeWhile_append_trimStart s, List.countP_append]
    rw [countP_isOpener_eq_zero fun c hc => isOpener_eq_false (.inl (List.mem_takeWhile_imp hc)),
      Nat.zero_add]
  have hend : ∀ c ∈ takeEndWhile isBlank (trimStart s), isOpener c = false := fun c hc =>
    isOpener_eq_false (.inl (eq_true_of_mem_takeEndWhile hc))
  rw [← hstart, trim]
  conv_rhs => rw [← trimEnd_append_takeEndWhile (trimStart s), List.countP_append]
  rw [countP_isOpener_eq_zero hend, Nat.add_zero]

/-! ## Putting in a size -/

theorem SizeCall.IsSound.isOpener_tail {call : SizeCall} (h : call.IsSound) :
    ∀ c ∈ call.tail, isOpener c = false := by
  intro c hc
  rcases h.mem_tail hc with hblank | rfl
  · exact isOpener_eq_false (.inl hblank)
  · decide

/-- What stands in a call in place of its size makes no difference to the markers around. -/
theorem SizeCall.IsSound.holdsMarker_append_iff {call : SizeCall} (h : call.IsSound)
    (hw : ∀ c ∈ w, isOpener c = false) :
    HoldsMarker (x ++ (call.lead ++ w ++ call.tail ++ t)) ↔
      HoldsMarker (x ++ call.lead) ∨ HoldsMarker t := by
  obtain ⟨a, c, gap, hlead, hsign, hgap⟩ := h.lead
  have hc : c ∈ ['(', ',', '=', '.', ')'] := List.mem_append_left ['.', ')'] hsign
  have hopener : ∀ c ∈ gap, isOpener c = false := fun c hc => isOpener_eq_false (.inl (hgap c hc))
  have hbehind : ∀ c ∈ gap ++ w ++ call.tail, isOpener c = false := by
    simp only [List.mem_append]
    rintro c ((hc | hc) | hc)
    · exact hopener c hc
    · exact hw c hc
    · exact h.isOpener_tail c hc
  have hnone : ¬ HoldsMarker gap := by
    rw [← List.append_nil gap, holdsMarker_append_left hopener]
    exact not_holdsMarker_nil
  have htext : x ++ (call.lead ++ w ++ call.tail ++ t) =
      (x ++ a) ++ c :: ((gap ++ w ++ call.tail) ++ t) := by
    simp [hlead]
  rw [htext, holdsMarker_append_cons hc, holdsMarker_append_left hbehind, hlead,
    ← List.append_assoc, holdsMarker_append_cons hc]
  simp [hnone]

theorem IsNumeral.isOpener_eq_false (h : IsNumeral s) : ∀ c ∈ s, isOpener c = false :=
  fun c hc => Source.isOpener_eq_false (.inr (h.digits c hc))

theorem SizeCall.IsSound.isOpener_gap {call : SizeCall} (h : call.IsSound) :
    ∀ c ∈ call.gap ++ call.digits, isOpener c = false := by
  intro c hc
  rcases List.mem_append.1 hc with hc | hc
  · exact isOpener_eq_false (.inl (h.gap c hc))
  · exact h.digits.isOpener_eq_false c hc

/-- A pass keeps markers, also those that begin in the text in front. -/
theorem holdsMarker_resizeCallsFrom (kind : SizeKind) (hsize : IsNumeral size) (afterWord : Bool)
    (x s : List Char) :
    HoldsMarker (x ++ resizeCallsFrom kind.find size afterWord 0 s) ↔ HoldsMarker (x ++ s) := by
  have hs := scan kind afterWord s
  -- The text in front grows character by character; behind a call nothing of it is left.
  induction hs generalizing x with
  | nil => rfl
  | @call call t hknows ht _ _ ih =>
    have hsound := kind.sound hknows
    rw [resizeCallsFrom_call hknows ht, SizeCall.withSize,
      hsound.holdsMarker_append_iff hsize.isOpener_eq_false, SizeCall.text,
      List.append_assoc call.lead, hsound.holdsMarker_append_iff hsound.isOpener_gap]
    exact or_congr_right (ih [])
  | @numeral afterWord digits t hdigits _ _ ih =>
    rw [resizeCallsFrom_numeral hdigits]
    simpa using ih (x ++ digits)
  | @char afterWord c t _ hfind _ ih =>
    rw [resizeCallsFrom_char hfind]
    simpa using ih (x ++ [c])

theorem countP_isOpener_resizeCallsFrom (kind : SizeKind) (hsize : IsNumeral size)
    (afterWord : Bool) (s : List Char) :
    (resizeCallsFrom kind.find size afterWord 0 s).countP isOpener = s.countP isOpener := by
  have hs := scan kind afterWord s
  induction hs with
  | nil => rfl
  | @call call t hknows ht _ _ ih =>
    have hgap := countP_isOpener_eq_zero (kind.sound hknows).isOpener_gap
    have hnew := countP_isOpener_eq_zero hsize.isOpener_eq_false
    rw [List.countP_append] at hgap
    rw [resizeCallsFrom_call hknows ht]
    simp only [SizeCall.withSize, SizeCall.text, List.countP_append, ih]
    omega
  | numeral hdigits _ _ ih =>
    rw [resizeCallsFrom_numeral hdigits, List.countP_append, ih, List.countP_append]
  | char _ hfind _ ih =>
    rw [resizeCallsFrom_char hfind, List.countP_cons, ih, List.countP_cons]

theorem holdsMarker_resizeFonts (n : Nat) (s : List Char) :
    HoldsMarker (resizeFonts n s) ↔ HoldsMarker s := by
  have pass := fun kind =>
    holdsMarker_resizeCallsFrom kind (isNumeral_toDigits n) false []
  exact (pass .second _).trans <| (pass .last _).trans <| (pass .keyword _).trans (pass .only s)

theorem countP_isOpener_resizeFonts (n : Nat) (s : List Char) :
    (resizeFonts n s).countP isOpener = s.countP isOpener := by
  have pass := fun kind =>
    countP_isOpener_resizeCallsFrom kind (isNumeral_toDigits n) false
  exact (pass .second _).trans <| (pass .last _).trans <| (pass .keyword _).trans (pass .only s)

/-! ## Scripts -/

/-- What is done to a text behind the removal of its markers. -/
def finish (fontSize : Option Nat) (script : List Char) : List Char :=
  trim <|
    match fontSize with
    | some (n + 1) => resizeFonts (n + 1) script
    | _ => script

theorem clean_eq_finish (text : List Char) (fontSize : Option Nat) :
    clean text fontSize = finish fontSize (stripMarkers text) := rfl

section Finish

variable (fontSize : Option Nat) (s : List Char)

theorem holdsMarker_finish : HoldsMarker (finish fontSize s) ↔ HoldsMarker s := by
  match fontSize with
  | some (n + 1) => exact holdsMarker_trim.trans (holdsMarker_resizeFonts (n + 1) s)
  | some 0 => exact holdsMarker_trim
  | none => exact holdsMarker_trim

theorem countP_isOpener_finish :
    (finish fontSize s).countP isOpener = s.countP isOpener := by
  match fontSize with
  | some (n + 1) => exact countP_isOpener_trim.trans (countP_isOpener_resizeFonts (n + 1) s)
  | some 0 => exact countP_isOpener_trim
  | none => exact countP_isOpener_trim

theorem finish_finish : finish fontSize (finish fontSize s) = finish fontSize s := by
  match fontSize with
  | some (n + 1) =>
    exact (congrArg trim (resizeFonts_trim_resizeFonts (n + 1) s)).trans (trim_trim _)
  | some 0 => exact trim_trim s
  | none => exact trim_trim s

end Finish

/-- A script holds a marker exactly when the removal has left one in the pasted text, and exactly
then it changes when it is pasted again with the same size. None is left where no marker stands
directly behind the beginning of a marker. -/
theorem clean_holdsMarker_iff (text : List Char) (fontSize : Option Nat) :
    (HoldsMarker (clean text fontSize) ↔ HoldsMarker (stripMarkers text)) ∧
      (clean (clean text fontSize) fontSize = clean text fontSize ↔
        ¬ HoldsMarker (stripMarkers text)) ∧
      (IsGuarded text → ¬ HoldsMarker (stripMarkers text)) := by
  have hmarker : HoldsMarker (clean text fontSize) ↔ HoldsMarker (stripMarkers text) :=
    holdsMarker_finish fontSize _
  refine ⟨hmarker, ?_, not_holdsMarker_stripMarkers⟩
  rw [← hmarker]
  rcases stripMarkers_cases (clean text fontSize) with ⟨hnone, hstrip⟩ | ⟨hholds, hlt⟩
  · refine iff_of_true ?_ hnone
    rw [clean_eq_finish (clean text fontSize), hstrip]
    exact finish_finish fontSize _
  · refine iff_of_false (fun heq => ?_) (not_not_intro hholds)
    have hcount := countP_isOpener_finish fontSize (stripMarkers (clean text fontSize))
    rw [← clean_eq_finish, heq] at hcount
    omega

theorem clean_fenced_script :
    IsGuarded "```python\nprint(1)\n```".toList ∧
      ¬ HoldsMarker (clean "```python\nprint(1)\n```".toList (some 12)) := by
  have hguard : IsGuarded "```python\nprint(1)\n```".toList :=
    isGuarded_of_fences (by decide) (by decide)
  obtain ⟨hmarker, -, hclean⟩ := clean_holdsMarker_iff "```python\nprint(1)\n```".toList (some 12)
  exact ⟨hguard, mt hmarker.1 (hclean hguard)⟩

/-- The halves of a marker around another one come together. -/
theorem halves_joined :
    HoldsMarker (clean "[cite_s[cite_start]tart]x".toList none) ∧
      clean (clean "[cite_s[cite_start]tart]x".toList none) none ≠
        clean "[cite_s[cite_start]tart]x".toList none := by
  refine ⟨⟨.citeStart, _, .citeStart, ?_⟩, by decide +kernel⟩
  decide +kernel

end ScriptPress.Source
