import Mathlib.Data.Option.Basic
import ScriptPress.Proofs.RawLine
import ScriptPress.Source.Buffer

/-!
# The lines of a script and of its source

Markers stand inside lines, so taking them out changes lines one by one; only white space at the
ends of the whole text takes lines away. A line of the script therefore comes from the line of the
source with the same number, counted behind the source lines of which nothing is left at the
beginning.

## Main definitions

* `Stops` — a recogniser looks no further than a character.
* `leading` — the number of source lines at the beginning of which nothing is left.

## Main statements

* `removeAll_append_cons` — what is removed in front of such a character and behind it.
* `map_stripMarkers_rawLines` — markers are taken out line by line.
* `exists_source_line` — the source line of a line of the script.
* `sameLines_iff` — when the two have the same number.
-/

namespace ScriptPress.Source

open Text

/-! ## Recognisers -/

/-- The recogniser looks no further than the character `c`, and what it knows lies in the text. -/
structure Stops (find : Recogniser) (c : Char) : Prop where
  before : ∀ s t, find (s ++ c :: t) = find s
  within : ∀ s more, find s = some more → more < s.length

namespace Stops

variable {find find' : Recogniser} {c : Char}

theorem here (h : Stops find c) (t : List Char) : find (c :: t) = none := by
  have hnil : find (c :: t) = find [] := h.before [] t
  rw [hnil, Option.eq_none_iff_forall_ne_some]
  intro more hmore
  exact absurd (h.within [] more hmore) (by simp)

theorem or (h : Stops find c) (h' : Stops find' c) :
    Stops (fun s => (find s).or (find' s)) c where
  before s t := by rw [h.before, h'.before]
  within s more hmore := by
    rcases Option.or_eq_some_iff.1 hmore with hmore | ⟨-, hmore⟩
    · exact h.within s more hmore
    · exact h'.within s more hmore

end Stops

theorem removeAllFrom_append_cons {find : Recogniser} {c : Char} (h : Stops find c)
    (s t : List Char) {skip : Nat} (hskip : skip ≤ s.length) :
    removeAllFrom find skip (s ++ c :: t) = removeAllFrom find skip s ++ c :: removeAll find t := by
  induction s generalizing skip with
  | nil =>
    obtain rfl : skip = 0 := by simpa using hskip
    simp [removeAllFrom, h.here, removeAll]
  | cons d s ih =>
    cases skip with
    | succ skip => exact ih (by simpa using hskip)
    | zero =>
      rw [List.cons_append, removeAllFrom, removeAllFrom, ← List.cons_append, h.before]
      cases hfind : find (d :: s) with
      | none => exact congrArg (d :: ·) (ih (Nat.zero_le _))
      | some more =>
        have := h.within _ _ hfind
        exact ih (by simpa [Nat.lt_succ_iff] using this)

/-- What a recogniser knows is removed in front of a character at which it stops, and behind it. -/
theorem removeAll_append_cons {find : Recogniser} {c : Char} (h : Stops find c)
    (s t : List Char) : removeAll find (s ++ c :: t) = removeAll find s ++ c :: removeAll find t :=
  removeAllFrom_append_cons h s t (Nat.zero_le _)

theorem removeAll_subset (find : Recogniser) (s : List Char) : removeAll find s ⊆ s := by
  have subset : ∀ skip, removeAllFrom find skip s ⊆ s := by
    intro skip
    induction s generalizing skip with
    | nil => cases skip <;> simp [removeAllFrom]
    | cons c s ih =>
      cases skip with
      | succ skip => exact List.subset_cons_of_subset c (ih skip)
      | zero =>
        rw [removeAllFrom]
        split
        · exact List.subset_cons_of_subset c (ih _)
        · exact List.cons_subset_cons c (ih 0)
  exact subset 0

/-! ## Markers -/

theorem stops_literal {t : List Char} {c : Char} (ht : t ≠ []) (hc : c ∉ t) :
    Stops (literal t) c where
  before s u := by
    unfold literal
    rw [startsWith?_append_cons hc, Option.map_map]
    rfl
  within s more h := by
    obtain ⟨rest, hrest, rfl⟩ := Option.map_eq_some_iff.1 h
    have hpos := List.length_pos_iff.2 ht
    rw [startsWith?_eq_some_iff.1 hrest, List.length_append]
    omega

theorem stops_citeNumber {c : Char} (hlead : c ∉ "[cite: ".toList) (hdigit : isDigit c = false)
    (hclose : c ≠ ']') : Stops citeNumber c where
  before s u := by
    unfold citeNumber
    rw [startsWith?_append_cons hlead]
    cases startsWith? "[cite: ".toList s with
    | none => rfl
    | some rest =>
      have htake : (rest ++ c :: u).takeWhile isDigit = rest.takeWhile isDigit := by
        rw [List.takeWhile_append]
        split
        · rename_i hall
          rw [(List.takeWhile_prefix isDigit).eq_of_length hall]
          simp [hdigit]
        · rfl
      have hdrop : (((rest ++ c :: u).drop (rest.takeWhile isDigit).length).head? == some ']') =
          ((rest.drop (rest.takeWhile isDigit).length).head? == some ']') := by
        rw [List.drop_append_of_le_length (List.takeWhile_prefix _).length_le, List.head?_append]
        cases (rest.drop (rest.takeWhile isDigit).length).head? <;> simp [hclose]
      simp only [Option.map_some, Option.bind_eq_bind, Option.bind_some, htake, hdrop]
  within s more h := by
    simp only [citeNumber, Option.bind_eq_bind, Option.bind_eq_some_iff, Option.pure_def,
      Option.some.injEq] at h
    obtain ⟨rest, hrest, _, -, _, hclosed, rfl⟩ := h
    have hbound : (rest.takeWhile isDigit).length < rest.length := by
      by_contra hle
      rw [List.drop_eq_nil_of_le (by omega)] at hclosed
      simp [guard] at hclosed
    have hseven : "[cite: ".length = 7 := by decide
    have hlength : ("[cite: ".toList ++ rest).length = 7 + rest.length := by
      rw [List.length_append, String.length_toList, hseven]
    rw [startsWith?_eq_some_iff.1 hrest, hlength, hseven]
    omega

section

variable {c : Char} (hc : Repair.isEnding c = true)

include hc

/-- Markers hold no line feed and no carriage return. -/
theorem stripMarkers_append_cons (s t : List Char) :
    stripMarkers (s ++ c :: t) = stripMarkers s ++ c :: stripMarkers t := by
  have hor : c = '\n' ∨ c = '\r' := by simpa [Repair.isEnding] using hc
  have absent : ∀ t ∈ ["```python".toList, "```".toList, "[cite_start]".toList,
      "[cite_end]".toList, "[cite: ".toList], c ∉ t := by
    rcases hor with rfl | rfl <;> decide
  have hdigit : isDigit c = false := by rcases hor with rfl | rfl <;> decide
  have hclose : c ≠ ']' := by rcases hor with rfl | rfl <;> decide
  have hfence : Stops fence c :=
    (stops_literal (by decide) (absent _ (by simp))).or
      (stops_literal (by decide) (absent _ (by simp)))
  have hstart : Stops citeStart c := stops_literal (by decide) (absent _ (by simp))
  have hnumber : Stops citeNumber c := stops_citeNumber (absent _ (by simp)) hdigit hclose
  have hend : Stops citeEnd c := stops_literal (by decide) (absent _ (by simp))
  unfold stripMarkers
  rw [removeAll_append_cons hfence, removeAll_append_cons hstart, removeAll_append_cons hnumber,
    removeAll_append_cons hend]

end

theorem stripMarkers_append_endings (s : List Char) {e : List Char}
    (he : ∀ c ∈ e, Repair.isEnding c = true) : stripMarkers (s ++ e) = stripMarkers s ++ e := by
  induction e generalizing s with
  | nil => simp
  | cons c e ih =>
    have hnil : stripMarkers e = e := by
      have : stripMarkers ([] ++ e) = stripMarkers [] ++ e := ih [] fun d hd => he d (by simp [hd])
      simpa [stripMarkers, removeAll, removeAllFrom] using this
    rw [stripMarkers_append_cons (he c (by simp)), hnil]

theorem stripMarkers_subset (s : List Char) : stripMarkers s ⊆ s :=
  List.Subset.trans (removeAll_subset citeEnd _) <|
    List.Subset.trans (removeAll_subset citeNumber _) <|
    List.Subset.trans (removeAll_subset citeStart _) (removeAll_subset fence s)

/-! ## Lines without their markers -/

/-- Markers are taken out line by line; a last line without an ending may vanish. -/
theorem map_stripMarkers_rawLines (s : List Char) :
    ∃ e, (e = [] ∨ e = [[]]) ∧
      (rawLines s).map stripMarkers = rawLines (stripMarkers s) ++ e := by
  induction s using line_induction with
  | nil => exact ⟨[], .inl rfl, rfl⟩
  | last body hne h =>
    have hstripped : '\n' ∉ stripMarkers body := fun hm => h (stripMarkers_subset body hm)
    rw [rawLines_of_not_mem hne h]
    by_cases hnil : stripMarkers body = []
    · exact ⟨[[]], .inr rfl, by simp [hnil, rawLines]⟩
    · exact ⟨[], .inl rfl, by simp [rawLines_of_not_mem hnil hstripped]⟩
  | line body s h ih =>
    obtain ⟨e, he, ih⟩ := ih
    have hstripped : '\n' ∉ stripMarkers body := fun hm => h (stripMarkers_subset body hm)
    have hhead : stripMarkers (body ++ ['\n']) = stripMarkers body ++ ['\n'] :=
      stripMarkers_append_endings body (by simp [Repair.isEnding])
    refine ⟨e, he, ?_⟩
    rw [rawLines_append_newline h, List.map_cons, hhead, ih,
      stripMarkers_append_cons (by decide), rawLines_append_newline hstripped, List.cons_append]

/-! ## White space at the ends of a text -/

theorem trim_append_of_isBlank (s : List Char) {w : List Char} (hw : ∀ c ∈ w, isBlank c = true) :
    trim (s ++ w) = trim s := by
  unfold trim trimStart
  rw [List.dropWhile_append]
  split
  · rename_i h
    rw [List.dropWhile_eq_nil_iff.2 hw, List.isEmpty_iff.1 h]
  · exact dropEndWhile_append_of_pos _ hw

theorem trim_trimStart (s : List Char) : trim (trimStart s) = trim s := by
  unfold trim trimStart
  rw [List.dropWhile_idempotent]

/-- White space behind a text changes no line of it but for white space at the line's end. -/
theorem exists_rawLine_append (s : List Char) {w : List Char} (hw : ∀ c ∈ w, isBlank c = true)
    {i : Nat} {raw : List Char} (h : (rawLines s)[i]? = some raw) :
    ∃ raw', (rawLines (s ++ w))[i]? = some raw' ∧ trim raw' = trim raw := by
  induction s using line_induction generalizing i with
  | nil => simp [rawLines] at h
  | last body hne hbody =>
    rw [rawLines_of_not_mem hne hbody] at h
    obtain ⟨rfl, rfl⟩ : i = 0 ∧ body = raw := by cases i <;> simp_all
    by_cases hnl : '\n' ∈ w
    · obtain ⟨w₁, w₂, rfl, hfirst⟩ := List.eq_append_cons_of_mem hnl
      refine ⟨body ++ w₁ ++ ['\n'], ?_, ?_⟩
      · rw [← List.append_assoc, rawLines_append_newline (by simp [hbody, hfirst])]
        rfl
      · rw [List.append_assoc]
        exact trim_append_of_isBlank body fun c hc => hw c (by simp at hc ⊢; tauto)
    · refine ⟨body ++ w, ?_, trim_append_of_isBlank body hw⟩
      rw [rawLines_of_not_mem (by simp [hne]) (by simp [hbody, hnl])]
      rfl
  | line body s hbody ih =>
    rw [List.append_assoc, List.cons_append, rawLines_append_newline hbody]
    rw [rawLines_append_newline hbody] at h
    cases i with
    | zero => exact ⟨body ++ ['\n'], rfl, by simp_all⟩
    | succ i => exact ih (by simpa using h)

/-- The number of raw lines at the beginning of a text that hold white space only. -/
def blankLines (s : List Char) : Nat := ((rawLines s).takeWhile isBlankText).length

/-- White space in front of a text takes away the blank lines there, and the indentation of the
line behind them. -/
theorem exists_rawLine_trimStart (s : List Char) {i : Nat} {raw : List Char}
    (h : (rawLines (trimStart s))[i]? = some raw) :
    ∃ raw', (rawLines s)[blankLines s + i]? = some raw' ∧ trim raw' = trim raw := by
  induction s using line_induction generalizing i with
  | nil => simp [trimStart, rawLines] at h
  | last body hne hbody =>
    by_cases hblank : isBlankText body = true
    · have hnil : trimStart body = [] :=
        List.dropWhile_eq_nil_iff.2 (List.all_eq_true.1 hblank)
      simp [hnil, rawLines] at h
    · have hne' : trimStart body ≠ [] := by
        intro hnil
        exact hblank (List.all_eq_true.2 (List.dropWhile_eq_nil_iff.1 hnil))
      have hbody' : '\n' ∉ trimStart body := fun hm => hbody ((List.dropWhile_sublist _).subset hm)
      rw [rawLines_of_not_mem hne' hbody'] at h
      obtain ⟨rfl, rfl⟩ : i = 0 ∧ trimStart body = raw := by cases i <;> simp_all
      refine ⟨body, ?_, (trim_trimStart body).symm⟩
      simp [blankLines, rawLines_of_not_mem hne hbody, hblank]
  | line body s hbody ih =>
    have hlines := rawLines_append_newline hbody s
    by_cases hblank : isBlankText (body ++ ['\n']) = true
    · have hstart : trimStart (body ++ '\n' :: s) = trimStart s := by
        rw [← List.singleton_append, ← List.append_assoc, trimStart,
          List.dropWhile_append_of_pos (List.all_eq_true.1 hblank), ← trimStart]
      have hcount : blankLines (body ++ '\n' :: s) = blankLines s + 1 := by
        rw [blankLines, hlines, List.takeWhile_cons_of_pos hblank, List.length_cons, blankLines]
      rw [hstart] at h
      obtain ⟨raw', hraw, htrim⟩ := ih h
      refine ⟨raw', ?_, htrim⟩
      rw [hlines, hcount, Nat.add_right_comm, List.getElem?_cons_succ, hraw]
    · have hne : (body.dropWhile isBlank).isEmpty = false := by
        rw [Bool.eq_false_iff, Ne, List.isEmpty_iff, List.dropWhile_eq_nil_iff]
        intro hall
        exact hblank (List.all_eq_true.2 fun c hc => by
          rcases List.mem_append.1 hc with hc | hc
          · exact hall c hc
          · rw [List.mem_singleton.1 hc]
            decide)
      have hstart : trimStart (body ++ '\n' :: s) = trimStart body ++ '\n' :: s := by
        rw [trimStart, List.dropWhile_append, hne]
        rfl
      have hbody' : '\n' ∉ trimStart body := fun hm => hbody ((List.dropWhile_sublist _).subset hm)
      have hcount : blankLines (body ++ '\n' :: s) = 0 := by
        rw [blankLines, hlines, List.takeWhile_cons_of_neg hblank, List.length_nil]
      rw [hstart, rawLines_append_newline hbody'] at h
      rw [hlines, hcount, Nat.zero_add]
      cases i with
      | zero =>
        obtain rfl : trimStart body ++ ['\n'] = raw := by simpa using h
        refine ⟨body ++ ['\n'], rfl, ?_⟩
        have blank : ∀ c ∈ ['\n'], isBlank c = true := by simp [isBlank]
        rw [trim_append_of_isBlank _ blank, trim_append_of_isBlank _ blank, trim_trimStart]
      | succ i => exact ⟨raw, by simpa using h, rfl⟩

/-! ## Lines of the script and of its source -/

/-- The number of source lines at the beginning of a text of which nothing is left. -/
def leading (source : List Char) : Nat :=
  ((lines source).takeWhile fun line => (clean line none).isEmpty).length

theorem trim_lineContent {s raw : List Char} (h : raw ∈ rawLines s) :
    trim (lineContent raw) = trim raw := by
  obtain ⟨e, he, hraw⟩ := exists_eq_lineContent_append h
  conv => rhs; rw [hraw]
  rw [trim_append_of_isBlank _ fun c hc => isBlank_of_isEnding (he c hc)]

theorem clean_lineContent {s raw : List Char} (h : raw ∈ rawLines s) :
    clean (lineContent raw) none = clean raw none := by
  obtain ⟨e, he, hraw⟩ := exists_eq_lineContent_append h
  conv => rhs; rw [hraw]
  unfold clean
  rw [stripMarkers_append_endings _ he,
    trim_append_of_isBlank _ fun c hc => isBlank_of_isEnding (he c hc)]

theorem takeWhile_congr_of_mem {α : Type} {p q : α → Bool} {l : List α}
    (h : ∀ a ∈ l, p a = q a) : l.takeWhile p = l.takeWhile q := by
  induction l with
  | nil => rfl
  | cons a l ih =>
    rw [List.takeWhile_cons, List.takeWhile_cons, h a List.mem_cons_self,
      ih fun b hb => h b (List.mem_cons_of_mem a hb)]

/-- Nothing is left of the source lines in front of the script. -/
theorem leading_eq_blankLines {source : List Char} (h : clean source none ≠ []) :
    leading source = blankLines (stripMarkers source) := by
  have hraw : ∀ raw ∈ rawLines source,
      (clean (lineContent raw) none).isEmpty = isBlankText (stripMarkers raw) := by
    intro raw hraw
    rw [clean_lineContent hraw, Bool.eq_iff_iff, List.isEmpty_iff]
    exact trim_eq_nil_iff.trans List.all_eq_true.symm
  obtain ⟨e, -, hmap⟩ := map_stripMarkers_rawLines source
  -- The script has a visible character, so the run of blank lines ends before the last line.
  have hvisible : ((rawLines (stripMarkers source)).takeWhile isBlankText).length ≠
      (rawLines (stripMarkers source)).length := by
    intro hall
    have hblank := List.takeWhile_eq_self_iff.1
      ((List.takeWhile_prefix isBlankText).eq_of_length hall)
    apply h
    refine trim_eq_nil_iff.2 fun c hc => ?_
    rw [← flatten_rawLines (stripMarkers source)] at hc
    obtain ⟨raw, hmem, hc⟩ := List.mem_flatten.1 hc
    exact List.all_eq_true.1 (hblank raw hmem) c hc
  calc leading source
      = ((rawLines source).takeWhile fun raw => isBlankText (stripMarkers raw)).length := by
        rw [leading, lines, List.takeWhile_map, List.length_map]
        exact congrArg List.length (takeWhile_congr_of_mem hraw)
    _ = (((rawLines source).map stripMarkers).takeWhile isBlankText).length := by
        rw [List.takeWhile_map, List.length_map]
        rfl
    _ = blankLines (stripMarkers source) := by
        rw [hmap, List.takeWhile_append, if_neg hvisible, blankLines]

/-- A line of the script is what is left of the source line with the same number, counted behind
the lines of which nothing is left. -/
theorem exists_source_line {source line : List Char} {n : Nat}
    (h : lineAt? (clean source none) n = some line) :
    ∃ line', lineAt? source (leading source + n) = some line' ∧ clean line' none = trim line := by
  cases n with
  | zero => simp [lineAt?, numbered?] at h
  | succ i =>
    obtain ⟨raw, hraw, rfl⟩ : ∃ raw, (rawLines (clean source none))[i]? = some raw ∧
        lineContent raw = line := by
      simpa [lineAt?, numbered?, lines] using h
    have hscript : clean source none ≠ [] := by
      intro hnil
      simp [hnil, rawLines] at hraw
    have hcut : clean source none ++ takeEndWhile isBlank (trimStart (stripMarkers source)) =
        trimStart (stripMarkers source) :=
      dropEndWhile_append_takeEndWhile isBlank (trimStart (stripMarkers source))
    obtain ⟨raw₁, hraw₁, htrim₁⟩ := exists_rawLine_append (clean source none)
      (fun c => eq_true_of_mem_takeEndWhile) hraw
    rw [hcut] at hraw₁
    obtain ⟨raw₂, hraw₂, htrim₂⟩ := exists_rawLine_trimStart (stripMarkers source) hraw₁
    obtain ⟨e, -, hmap⟩ := map_stripMarkers_rawLines source
    have hsource : ((rawLines source).map stripMarkers)[blankLines (stripMarkers source) + i]? =
        some raw₂ := by
      obtain ⟨hlt, -⟩ := List.getElem?_eq_some_iff.1 hraw₂
      rw [hmap, List.getElem?_append_left hlt, hraw₂]
    rw [List.getElem?_map] at hsource
    obtain ⟨raw₃, hraw₃, rfl⟩ := Option.map_eq_some_iff.1 hsource
    refine ⟨lineContent raw₃, ?_, ?_⟩
    · rw [leading_eq_blankLines hscript]
      simp [lineAt?, numbered?, lines, hraw₃]
    · rw [clean_lineContent (List.mem_of_getElem? hraw₃),
        trim_lineContent (List.mem_of_getElem? hraw), ← htrim₁, ← htrim₂]
      rfl

/-- The first line of a script is visible. -/
theorem exists_first_line {source : List Char} (h : clean source none ≠ []) :
    ∃ line, lineAt? (clean source none) 1 = some line ∧ trim line ≠ [] := by
  have hhead : ∀ c ∈ (clean source none).head?, isBlank c = false := by
    intro c hc
    obtain ⟨w, hw⟩ : clean source none <+: trimStart (stripMarkers source) :=
      dropEndWhile_isPrefix isBlank _
    have hnot := List.head?_dropWhile_not isBlank (stripMarkers source)
    rw [← trimStart, ← hw, List.head?_append, Option.mem_def.1 hc] at hnot
    exact hnot
  have hflatten := flatten_rawLines (clean source none)
  cases hlines : rawLines (clean source none) with
  | nil =>
    rw [hlines] at hflatten
    exact absurd hflatten.symm h
  | cons raw raws =>
    have hmem : raw ∈ rawLines (clean source none) := by simp [hlines]
    refine ⟨lineContent raw, by simp [lineAt?, numbered?, lines, hlines], ?_⟩
    rw [trim_lineContent hmem, Ne, trim_eq_nil_iff]
    intro hblank
    cases raw with
    | nil =>
      rcases (isRawLines_rawLines _).eq_or_eq hmem with ⟨hne, -⟩ | ⟨body, -, e⟩
      · exact hne rfl
      · simp at e
    | cons c raw =>
      have hc : isBlank c = false := hhead c (by rw [← hflatten, hlines]; rfl)
      simp [hblank c (by simp)] at hc

/-- Lines of the script and of the source have the same numbers exactly when something is left of
the first line of the source. -/
theorem sameLines_iff {source : List Char} (h : clean source none ≠ []) :
    (∀ n line, lineAt? (clean source none) n = some line →
      ∃ line', lineAt? source n = some line' ∧ clean line' none = trim line) ↔
    leading source = 0 := by
  constructor
  · intro same
    obtain ⟨line, hline, hvisible⟩ := exists_first_line h
    obtain ⟨line', hline', hclean⟩ := same 1 line hline
    by_contra hleading
    cases hlines : lines source with
    | nil => simp [lineAt?, numbered?, hlines] at hline'
    | cons first rest =>
      obtain rfl : first = line' := by simpa [lineAt?, numbered?, hlines] using hline'
      by_cases hempty : (clean first none).isEmpty = true
      · rw [List.isEmpty_iff.1 hempty] at hclean
        exact hvisible hclean.symm
      · exact hleading (by simp [leading, hlines, hempty])
  · intro hleading n line hline
    obtain ⟨line', hline', hclean⟩ := exists_source_line hline
    exact ⟨line', by rwa [hleading, Nat.zero_add] at hline', hclean⟩

end ScriptPress.Source
