import ScriptPress.Page.Backend
import ScriptPress.Proofs.WrappedText

/-!
# What cells draw

A cell that is drawn puts marks behind those that the pages have, in the colour of the moment, and
they show all of the cell's ink.

## Main definitions

* `shown` — the text that marks show.
* `Document.Draws` — between two documents, marks were drawn in one style.

## Main statements

* `Document.draws_of_cell` — what a cell draws.
* `Document.exists_cell_eq_ok` — when a cell is drawn.
* `Document.apply_run` — patches change how cells are drawn, and no other call.
-/

namespace ScriptPress.Page

open Text

def shown (marks : List Mark) : List Char := marks.flatMap Mark.text

@[simp] theorem shown_append (marks marks' : List Mark) :
    shown (marks ++ marks') = shown marks ++ shown marks' :=
  List.flatMap_append

/-- Preparing a text brings no character into it that has no byte. -/
theorem isLatin1_prepare {s : List Char} (h : ∀ c ∈ s, isLatin1 c = true) :
    ∀ c ∈ prepare s, isLatin1 c = true := by
  intro c hc
  rcases mem_prepare hc with hc | rfl | rfl
  · exact h c hc
  · decide
  · decide

namespace Document

/-- The marks were drawn between the one document and the other, in the style that both have. -/
structure Draws (d : Document) (marks : List Mark) (d' : Document) : Prop where
  hasPage : d'.pages ≠ []
  pages : d'.pages.flatten = d.pages.flatten ++ marks
  family : d'.family = d.family
  fontSize : d'.fontSize = d.fontSize
  color : d'.color = d.color
  colored : ∀ m ∈ marks, m.color = d.color

namespace Draws

variable {d d₁ d₂ : Document} {marks marks' : List Mark}

theorem refl (h : d.pages ≠ []) : d.Draws [] d :=
  ⟨h, (List.append_nil _).symm, rfl, rfl, rfl, by simp⟩

theorem trans (h : d.Draws marks d₁) (h' : d₁.Draws marks' d₂) : d.Draws (marks ++ marks') d₂ where
  hasPage := h'.hasPage
  pages := by rw [h'.pages, h.pages, List.append_assoc]
  family := h'.family.trans h.family
  fontSize := h'.fontSize.trans h.fontSize
  color := h'.color.trans h.color
  colored m hm := by
    rcases List.mem_append.1 hm with hm | hm
    · exact h.colored m hm
    · exact (h'.colored m hm).trans h.color

/-- The cursor is no part of what is drawn. -/
theorem move (h : d.Draws marks d₁) (x y height : Binary32) :
    d.Draws marks { d₁ with x := x, y := y, lastHeight := height } :=
  ⟨h.hasPage, h.pages, h.family, h.fontSize, h.color, h.colored⟩

end Draws

/-! ## Fonts and colours -/

@[simp] theorem pages_setColor (color : Color) (d : Document) : (d.setColor color).pages = d.pages :=
  rfl

@[simp] theorem pages_setFontSize (size : Binary32) (d : Document) :
    (d.setFontSize size).pages = d.pages := by
  rw [setFontSize]
  split <;> rfl

@[simp] theorem pages_setFont (family : FontFamily) (size : Binary32) (d : Document) :
    (d.setFont family size).pages = d.pages := by
  rw [setFont, pages_setFontSize]

/-! ## One line -/

theorem flatten_drawOnLast (mark : Mark) {pages : List (List Mark)} (h : pages ≠ []) :
    (drawOnLast mark pages).flatten = pages.flatten ++ [mark] := by
  fun_induction drawOnLast mark pages with
  | case1 => exact absurd rfl h
  | case2 page => simp
  | case3 page pages hne ih =>
    have hpages : pages ≠ [] := fun e => hne e
    simp [ih hpages]

theorem drawOnLast_ne_nil (mark : Mark) {pages : List (List Mark)} (h : pages ≠ []) :
    drawOnLast mark pages ≠ [] := by
  fun_cases drawOnLast mark pages <;> simp_all

theorem draws_breakPage (height : Binary32) {d : Document} (h : d.pages ≠ []) :
    d.Draws [] (d.breakPage height) := by
  unfold breakPage
  split
  · exact ⟨by simp [addPage], by simp [addPage], rfl, rfl, rfl, by simp⟩
  · exact .refl h

/-- A line is drawn as one mark, an empty one as none. -/
theorem exists_draws_drawLine (x height : Binary32) (text : List Char) {d : Document}
    (h : d.pages ≠ []) : ∃ marks, d.Draws marks (d.drawLine x height text) ∧ shown marks = text := by
  unfold drawLine
  split
  · rename_i e
    exact ⟨[], .refl h, by simp [e, shown]⟩
  · exact ⟨_, ⟨drawOnLast_ne_nil _ h, flatten_drawOnLast _ h, rfl, rfl, rfl, by simp⟩,
      by simp [shown]⟩

theorem exists_draws_cellLine (x height : Binary32) (text : List Char) {d : Document}
    (h : d.pages ≠ []) : ∃ marks, d.Draws marks (d.cellLine x height text) ∧ shown marks = text := by
  have broken := draws_breakPage height h
  obtain ⟨marks, drawn, htext⟩ := exists_draws_drawLine x height text broken.hasPage
  exact ⟨marks, (broken.trans drawn).move .., htext⟩

/-- Lines are drawn one below the other, on as many pages as they need. -/
theorem exists_draws_foldl (x height : Binary32) (lines : List (List Char)) {d : Document}
    (h : d.pages ≠ []) :
    ∃ marks, d.Draws marks (lines.foldl (cellLine x height) d) ∧ shown marks = lines.flatten := by
  induction lines generalizing d with
  | nil => exact ⟨[], .refl h, rfl⟩
  | cons line lines ih =>
    obtain ⟨marks, drawn, hline⟩ := exists_draws_cellLine x height line h
    obtain ⟨marks', drawn', hlines⟩ := ih drawn.hasPage
    exact ⟨marks ++ marks', drawn.trans drawn', by rw [shown_append, hline, hlines]; rfl⟩

/-! ## Cells -/

/-- A cell that is drawn shows all of its ink. -/
theorem draws_of_cell {c : Cell} {d d' : Document} (h : d.cell c = .ok d') :
    ∃ marks, d.Draws marks d' ∧ withoutSpaces (shown marks) = ink c.text := by
  unfold cell at h
  split at h
  · cases h
  · rename_i hpages
    dsimp only at h
    split at h
    · cases h
    · split at h
      · cases h
      · cases h
        obtain ⟨marks, drawn, hshown⟩ := exists_draws_foldl (d.x + padding) (d.cellHeight c.height)
          (wrap (usableWidth (d.cellWidth c.width) / d.charWidth).floorNat (prepare c.text)) hpages
        exact ⟨marks, drawn.move .., by rw [hshown, withoutSpaces_wrap_prepare]⟩

theorem firstUnencodable?_eq_none {s : List Char} (h : ∀ c ∈ s, isLatin1 c = true) :
    firstUnencodable? s = none := by
  have hnone : s.findIdx? (!isLatin1 ·) = none := by simpa using h
  simp [firstUnencodable?, hnone]

/-- A cell is drawn where there is a page, a byte for each character, and room for one. -/
theorem exists_cell_eq_ok {c : Cell} {d : Document} (hpages : d.pages ≠ [])
    (hlatin : ∀ ch ∈ c.text, isLatin1 ch = true)
    (hroom : Binary32.lt (usableWidth (d.cellWidth c.width)) d.charWidth = false) :
    ∃ d', d.cell c = .ok d' := by
  simp [cell, hpages, firstUnencodable?_eq_none (isLatin1_prepare hlatin), hroom]

/-- Where there is a page and a byte for each character, room is all that a cell can lack. -/
theorem cell_eq_notEnoughSpace {c : Cell} {d : Document} (hpages : d.pages ≠ [])
    (hlatin : ∀ ch ∈ c.text, isLatin1 ch = true)
    (hroom : Binary32.lt (usableWidth (d.cellWidth c.width)) d.charWidth = true) :
    d.cell c = .error (.notEnoughSpace (d.cellWidth c.width)) := by
  simp [cell, hpages, firstUnencodable?_eq_none (isLatin1_prepare hlatin), hroom]

/-! ## Patches -/

def lineWidth : Binary32 := pageWidth - margin - margin

/-- At the left margin, the rest of the line is a whole line. -/
theorem cellWidth_zero {d : Document} (h : d.x = margin) : d.cellWidth 0 = lineWidth := by
  have hzero : Binary32.le 0 0 = true := by decide +kernel
  rw [cellWidth, if_pos hzero, h, lineWidth]

theorem cell_lineWidth {d : Document} (h : d.x = margin) (height : Binary32) (text : List Char) :
    d.cell ⟨lineWidth, height, text⟩ = d.cell ⟨0, height, text⟩ := by
  have hwidth : d.cellWidth lineWidth = lineWidth := by
    have hpositive : Binary32.le lineWidth 0 = false := by decide +kernel
    simp [cellWidth, hpositive]
  simp only [cell, hwidth, cellWidth_zero h]

theorem backend_cell_of_ok {c : Cell} {d d' : Document} (h : d.cell c = .ok d') :
    Document.backend.cell c d = (.ok (), d') := by
  simp [backend, h]

/-- An encoding is tried only once where the first attempt succeeds. -/
theorem encodingFallback_cell_of_ok {c : Cell} {d d' : Document} (h : d.cell c = .ok d') :
    (encodingFallback Document.backend).cell c d = (.ok (), d') := by
  simp [encodingFallback, backend_cell_of_ok h]

/-- A patch changes how cells are drawn, and no other call. -/
theorem apply_run (patches : PatchSet) (command : Command) (h : ∀ c, command ≠ .cell c)
    (d : Document) :
    (patches.apply Document.backend).run command d = Document.backend.run command d := by
  obtain ⟨zeroWidth, encoding⟩ := patches
  cases command with
  | cell c => exact absurd rfl (h c)
  | _ => cases zeroWidth <;> cases encoding <;> rfl

end Document

end ScriptPress.Page
