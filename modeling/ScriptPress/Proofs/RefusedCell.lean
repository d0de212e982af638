import ScriptPress.Proofs.LossyCell

/-!
# Cells that are refused

A document checks a cell before it draws any line of it, and a second attempt at a cell begins where
the first one began. So nothing is drawn of a cell that fails. The width patch moves the cursor in
front of the cell, and this stays when the cell fails. Storing a document does not change it.

The refusal of a character names the first one that the font lacks. Its place is counted in the
prepared text, where a tab takes four places and a line ending one. So it is the place in the text
as it was given exactly where tabs and line endings in front of it make up for each other.

## Main definitions

* `lineEndPairs` — the line endings of two characters in a text.
* `NamesFirst` — a character and a place name the first character of a text that has no byte.

## Main statements

* `failed_cell_keeps_document` — what stays of a cell that fails.
* `Document.cell_of_unencodable` — the refusal of a character, from the text in front of it.
* `unencodable_refused_iff` — which cells are refused for a character, and which place is named.
* `tab_moves_place` — a place that is not that of the character.
-/

namespace ScriptPress

open Page Text

/-! ## What stays -/

/-- For every document and all patches, a cell that fails leaves the document as it was, but for a
line that the width patch broke in front of it. An attempt to store the document leaves it as it
was too, with success or not and at every place of every run. -/
theorem failed_cell_keeps_document (patches : PatchSet) (d : Document) :
    (∀ (c : Cell) (e : DrawError) (d' : Document),
      (patches.apply Document.backend).cell c d = (.error e, d') →
        (d'.pages = d.pages ∧ d'.family = d.family ∧ d'.fontSize = d.fontSize ∧
          d'.color = d.color ∧ d'.lastHeight = d.lastHeight) ∧
        d' = if patches.breaksLine c d then d.newLine none else d) ∧
    (∀ (name : String) (st : Store),
      ((DrawingStep.output name).perform patches d st).2.1 = d) ∧
    ∀ (steps : List DrawingStep) (st : Store),
      (performAll patches steps d st).document =
        (patches.apply Document.backend).drawEach (steps.filterMap DrawingStep.command?) d := by
  refine ⟨fun c e d' failed => ?_, fun _ _ => rfl, fun steps st => document_performAll steps d st⟩
  obtain rfl := eq_start_of_apply_error failed
  refine ⟨?_, rfl⟩
  rcases patches.start_eq_or c d with same | broken
  · rw [same]
    exact ⟨rfl, rfl, rfl, rfl, rfl⟩
  · rw [broken]
    exact ⟨rfl, rfl, rfl, rfl, rfl⟩

namespace Page

/-- A document with the cursor at the right margin and a font of which no character fits on a
line. -/
def Document.crowded : Document := { Document.empty.addPage with x := 200, fontSize := 2000 }

/-- The line is broken for a cell that is refused all the same. -/
theorem crowded_keeps_document :
    ∃ e, (PatchSet.all.apply Document.backend).cell ⟨0, 5, ['a']⟩ .crowded =
      (.error e, Document.crowded.newLine none) := by
  have refused : ((PatchSet.all.apply Document.backend).cell ⟨0, 5, ['a']⟩ .crowded).1 =
      .error (.notEnoughSpace 190) := by
    decide +kernel
  have breaks : PatchSet.all.breaksLine ⟨0, 5, ['a']⟩ .crowded = true := by decide +kernel
  rcases failed : (PatchSet.all.apply Document.backend).cell ⟨0, 5, ['a']⟩ .crowded with ⟨result, d'⟩
  obtain rfl : result = .error (.notEnoughSpace 190) := by rwa [failed] at refused
  have left := ((failed_cell_keeps_document .all .crowded).1 _ _ _ failed).2
  rw [if_pos breaks] at left
  exact ⟨_, by rw [left]⟩

/-! ## Places in a prepared text -/

/-- The number of line endings of a text that are a carriage return and a line feed. -/
def lineEndPairs : List Char → Nat
  | [] => 0
  | '\r' :: '\n' :: s => lineEndPairs s + 1
  | _ :: s => lineEndPairs s

/-- In a prepared text a tab has three places more, and a line ending of two characters one less. -/
theorem length_prepare (s : List Char) :
    (prepare s).length + lineEndPairs s = s.length + 3 * s.count '\t' := by
  fun_induction prepare s with
  | case1 => rfl
  | case2 s ih => simp [lineEndPairs]; omega
  | case3 s other ih => grind [lineEndPairs]
  | case4 s other _ ih => grind [lineEndPairs]
  | case5 c s other hcr htab ih => grind [lineEndPairs]

/-- A character that begins no line ending of two characters is prepared by itself. -/
theorem prepare_cons {c : Char} {s : List Char} (h : ∀ s', c = '\r' → s = '\n' :: s' → False) :
    prepare (c :: s) =
      (if c = '\r' then ['\n'] else if c = '\t' then [' ', ' ', ' ', ' '] else [c]) ++
        prepare s := by
  rw [prepare]
  · split_ifs <;> rfl
  · exact h

/-- What stands in front of a character is prepared by itself, unless the character is the second
one of a line ending. -/
theorem prepare_append_cons (s : List Char) {c : Char} (hc : c ≠ '\n') (t : List Char) :
    prepare (s ++ c :: t) = prepare s ++ prepare (c :: t) := by
  have step (b : Char) (s : List Char) (other : ∀ s', b = '\r' → s = '\n' :: s' → False)
      (ih : prepare (s ++ c :: t) = prepare s ++ prepare (c :: t)) :
      prepare (b :: s ++ c :: t) = prepare (b :: s) ++ prepare (c :: t) := by
    have apart : ∀ s', b = '\r' → s ++ c :: t = '\n' :: s' → False := by
      intro s' hb heq
      cases s with
      | nil => exact hc (List.cons.inj heq).1
      | cons a s =>
        obtain ⟨rfl, -⟩ := List.cons.inj heq
        exact other s hb rfl
    rw [List.cons_append, prepare_cons apart, ih, prepare_cons other, List.append_assoc]
  induction s using prepare.induct with
  | case1 => rfl
  | case2 s ih => simp [prepare, ih]
  | case3 s other ih => exact step _ s other ih
  | case4 s other _ ih => exact step _ s other ih
  | case5 b s other _ _ ih => exact step b s other ih

/-! ## Refused characters -/

theorem ne_of_isLatin1_eq_false {a c : Char} (hc : isLatin1 c = false) (ha : isLatin1 a = true) :
    c ≠ a := by
  rintro rfl
  rw [ha] at hc
  cases hc

theorem firstUnencodable?_append_cons {s : List Char} {c : Char}
    (hs : ∀ b ∈ s, isLatin1 b = true) (hc : isLatin1 c = false) (t : List Char) :
    Document.firstUnencodable? (s ++ c :: t) = some (s.length, c) := by
  have hnone : s.findIdx? (!isLatin1 ·) = none := by simpa using hs
  have hfirst : (s ++ c :: t).findIdx? (!isLatin1 ·) = some s.length := by
    simp [List.findIdx?_append, List.findIdx?_cons, hnone, hc]
  simp [Document.firstUnencodable?, hfirst]

/-- The first character without a byte stands in the prepared text behind what is in front of it,
prepared. -/
theorem firstUnencodable?_prepare {s : List Char} {c : Char} (hs : ∀ b ∈ s, isLatin1 b = true)
    (hc : isLatin1 c = false) (t : List Char) :
    Document.firstUnencodable? (prepare (s ++ c :: t)) = some ((prepare s).length, c) := by
  have hcr : c ≠ '\r' := ne_of_isLatin1_eq_false hc (by decide)
  have htab : c ≠ '\t' := ne_of_isLatin1_eq_false hc (by decide)
  have hlf : c ≠ '\n' := ne_of_isLatin1_eq_false hc (by decide)
  rw [prepare_append_cons s hlf, prepare_cons fun _ h => absurd h hcr, if_neg hcr, if_neg htab]
  exact firstUnencodable?_append_cons (isLatin1_prepare hs) hc _

/-- A cell is refused for its first character that has no byte. -/
theorem Document.cell_of_unencodable {c : Cell} {d : Document} (hpages : d.pages ≠ [])
    {s t : List Char} {ch : Char} (htext : c.text = s ++ ch :: t)
    (hs : ∀ b ∈ s, isLatin1 b = true) (hch : isLatin1 ch = false) :
    d.cell c = .error (.encoding ch (prepare s).length d.family.baseFont) := by
  simp [cell, hpages, htext, firstUnencodable?_prepare hs hch]

/-- No cell is refused for a character that has a byte. -/
theorem Document.exists_unencodable_of_cell {c : Cell} {d : Document} {ch : Char} {index : Nat}
    {font : String} (h : d.cell c = .error (.encoding ch index font)) :
    ∃ b ∈ c.text, isLatin1 b = false := by
  by_contra hall
  have hlatin : ∀ b ∈ c.text, isLatin1 b = true := by simpa using hall
  by_cases hpages : d.pages = []
  · simp [cell, hpages] at h
  cases hroom : Binary32.lt (usableWidth (d.cellWidth c.width)) d.charWidth with
  | true =>
    rw [cell_eq_notEnoughSpace hpages hlatin hroom] at h
    cases h
  | false =>
    obtain ⟨d', drawn⟩ := exists_cell_eq_ok hpages hlatin hroom
    rw [drawn] at h
    cases h

/-- The text in front of its first character that has no byte, and behind it. -/
theorem exists_eq_append_cons {s : List Char} (h : ∃ c ∈ s, isLatin1 c = false) :
    ∃ front c rest, s = front ++ c :: rest ∧ (∀ b ∈ front, isLatin1 b = true) ∧
      isLatin1 c = false := by
  obtain ⟨c, found⟩ : ∃ c, s.find? (!isLatin1 ·) = some c :=
    Option.isSome_iff_exists.1 (by simpa using h)
  obtain ⟨hc, front, rest, rfl, hfront⟩ := List.find?_eq_some_iff_append.1 found
  exact ⟨front, c, rest, rfl, by simpa using hfront, by simpa using hc⟩

/-- The place and the character name the first character of a text that has no byte. -/
def NamesFirst (text : List Char) (index : Nat) (ch : Char) : Prop :=
  text[index]? = some ch ∧ isLatin1 ch = false ∧ ∀ b ∈ text.take index, isLatin1 b = true

theorem namesFirst_iff {front : List Char} {ch : Char} (hfront : ∀ b ∈ front, isLatin1 b = true)
    (hch : isLatin1 ch = false) (rest : List Char) (index : Nat) :
    NamesFirst (front ++ ch :: rest) index ch ↔ index = front.length := by
  constructor
  · rintro ⟨here, -, before⟩
    rcases Nat.lt_trichotomy index front.length with hlt | rfl | hgt
    · -- in front of the character all have a byte
      rw [List.getElem?_append_left hlt] at here
      exact absurd rfl (ne_of_isLatin1_eq_false hch (hfront ch (List.mem_of_getElem? here)))
    · rfl
    · -- behind it, the character itself would be among those before
      obtain ⟨n, rfl⟩ := Nat.exists_eq_add_of_lt hgt
      refine absurd rfl (ne_of_isLatin1_eq_false hch (before ch ?_))
      simp [List.take_append, Nat.add_assoc]
  · rintro rfl
    exact ⟨by simp, hch, by simpa using hfront⟩

end Page

/-- On an open page a cell is refused for a character exactly if its text has one without a byte,
and the refusal names the first of these. The place that it names is counted in the prepared text:
it is that of the character in the text as it was given exactly if three times the tabs in front of
it are as many as the line endings of two characters. -/
theorem unencodable_refused_iff {d : Document} (hpages : d.pages ≠ []) (c : Cell) :
    ((∃ ch index font, d.cell c = .error (.encoding ch index font)) ↔
      ∃ ch ∈ c.text, isLatin1 ch = false) ∧
    ∀ ch index font, d.cell c = .error (.encoding ch index font) →
      ∃ front rest, c.text = front ++ ch :: rest ∧ (∀ b ∈ front, isLatin1 b = true) ∧
        isLatin1 ch = false ∧ font = d.family.baseFont ∧
        index + lineEndPairs front = front.length + 3 * front.count '\t' ∧
        (NamesFirst c.text index ch ↔ lineEndPairs front = 3 * front.count '\t') := by
  constructor
  · constructor
    · rintro ⟨ch, index, font, refused⟩
      exact Document.exists_unencodable_of_cell refused
    · intro unencodable
      obtain ⟨front, ch, rest, htext, hfront, hch⟩ := exists_eq_append_cons unencodable
      exact ⟨ch, _, _, Document.cell_of_unencodable hpages htext hfront hch⟩
  · intro ch index font refused
    obtain ⟨front, ch', rest, htext, hfront, hch⟩ :=
      exists_eq_append_cons (Document.exists_unencodable_of_cell refused)
    rw [Document.cell_of_unencodable hpages htext hfront hch] at refused
    obtain ⟨rfl, rfl, rfl⟩ : ch' = ch ∧ (prepare front).length = index ∧
        d.family.baseFont = font := by
      simpa using refused
    have places := length_prepare front
    refine ⟨front, rest, htext, hfront, hch, rfl, places, ?_⟩
    rw [htext, namesFirst_iff hfront hch]
    omega

def Page.Document.opened : Document := Document.empty.addPage

/-- Behind an accented letter, an arrow is refused and found where the refusal says. -/
theorem arrow_refused :
    Document.opened.pages ≠ [] ∧
      Document.opened.cell ⟨0, 5, ['é', '→']⟩ = .error (.encoding '→' 1 "Courier") ∧
      (∃ ch index font,
        Document.opened.cell ⟨0, 5, ['é', '→']⟩ = .error (.encoding ch index font)) ∧
      NamesFirst ['é', '→'] 1 '→' := by
  have hpages : Document.opened.pages ≠ [] := by decide
  have refused : Document.opened.cell ⟨0, 5, ['é', '→']⟩ = .error (.encoding '→' 1 "Courier") := by
    decide +kernel
  obtain ⟨refuses, named⟩ := unencodable_refused_iff hpages ⟨0, 5, ['é', '→']⟩
  obtain ⟨front, rest, htext, -, -, -, -, hplace⟩ := named _ _ _ refused
  obtain rfl : front = ['é'] := by
    rcases front with _ | ⟨a, _ | ⟨b, front⟩⟩
    · simp at htext
    · rw [(List.cons.inj htext).1]
    · simp at htext
  exact ⟨hpages, refused, refuses.2 ⟨'→', by decide, by decide⟩, hplace.2 rfl⟩

/-- Behind a tab, an arrow is refused with a place that the text does not have. -/
theorem tab_moves_place :
    Document.opened.pages ≠ [] ∧
      Document.opened.cell ⟨0, 5, ['\t', '→']⟩ = .error (.encoding '→' 4 "Courier") ∧
      ¬NamesFirst ['\t', '→'] 4 '→' ∧ NamesFirst ['\t', '→'] 1 '→' := by
  refine ⟨by decide, by decide +kernel, ?_, ?_⟩
  · rintro ⟨here, -⟩
    cases here
  · exact ⟨rfl, by decide, List.forall_mem_singleton.2 (by decide)⟩

end ScriptPress
