import ScriptPress.Proofs.DrawnText

/-!
# Where lines are laid

A cell lays its lines one below the other. What was drawn before stays in its place, a line joins
the end of the last page, and a line that would reach into the bottom margin is the first one of a
new page. This is so for any cursor, also one that is no number.

## Main definitions

* `markAt?`, `Continues` — the marks of pages by their places.
* `Laying` — a line at the moment when it is laid.
* `Laying.Placed` — where the mark of the line is found.
* `Gains` — between two states of the pages, lines were laid.
* `Document.laid` — the lines of a cell as they are laid.

## Main statements

* `gains_cellLine`, `gains_laid` — what laying a line, or the lines of a cell, does to the pages.
* `exists_laid_of_cell` — a cell that is drawn lays the lines of its prepared text.
-/

namespace ScriptPress.Page

open Text

/-! ## Places -/

/-- The mark at a place of a page, both counted from 0. -/
def markAt? (pages : List (List Mark)) (page place : Nat) : Option Mark :=
  pages[page]?.bind (·[place]?)

/-- Every mark of the first pages is at the same place of the second. -/
def Continues (pages pages' : List (List Mark)) : Prop :=
  ∀ page place mark, markAt? pages page place = some mark → markAt? pages' page place = some mark

namespace Continues

variable {pages pages₁ pages₂ : List (List Mark)}

theorem refl (pages : List (List Mark)) : Continues pages pages := fun _ _ _ h => h

theorem trans (h : Continues pages pages₁) (h' : Continues pages₁ pages₂) :
    Continues pages pages₂ :=
  fun page place mark hmark => h' page place mark (h page place mark hmark)

/-- New pages come behind the others. -/
theorem append (pages new : List (List Mark)) : Continues pages (pages ++ new) := by
  intro page place mark h
  obtain ⟨marks, hpage, hmark⟩ := Option.bind_eq_some_iff.1 h
  have hlt : page < pages.length := (List.getElem?_eq_some_iff.1 hpage).1
  rw [markAt?, List.getElem?_append_left hlt, hpage]
  exact hmark

/-- New marks come behind the others of the last page. -/
theorem append_last (pages : List (List Mark)) (last new : List Mark) :
    Continues (pages ++ [last]) (pages ++ [last ++ new]) := by
  intro page place mark h
  obtain ⟨marks, hpage, hmark⟩ := Option.bind_eq_some_iff.1 h
  have hplace : place < marks.length := (List.getElem?_eq_some_iff.1 hmark).1
  by_cases hlt : page < pages.length
  · rw [List.getElem?_append_left hlt] at hpage
    rw [markAt?, List.getElem?_append_left hlt, hpage]
    exact hmark
  · have hle : pages.length ≤ page := Nat.le_of_not_lt hlt
    rw [List.getElem?_append_right hle, List.getElem?_singleton] at hpage
    split at hpage
    · rename_i hlast
      obtain rfl : last = marks := by simpa using hpage
      rw [markAt?, List.getElem?_append_right hle, List.getElem?_singleton, if_pos hlast]
      simpa [List.getElem?_append_left hplace] using hmark
    · cases hpage

end Continues

theorem drawOnLast_append (mark : Mark) (pages : List (List Mark)) (page : List Mark) :
    Document.drawOnLast mark (pages ++ [page]) = pages ++ [page ++ [mark]] := by
  induction pages with
  | nil => rfl
  | cons first pages ih =>
    rw [List.cons_append, Document.drawOnLast, ih]
    · rfl
    · simp

theorem markAt?_length (pages : List (List Mark)) (page : List Mark) (mark : Mark) :
    markAt? (pages ++ [page ++ [mark]]) pages.length page.length = some mark := by
  simp [markAt?]

/-! ## Lines -/

/-- A line of text at the moment when it is laid: the document before it, the left edge of the text
and the height of the line. -/
structure Laying where
  before : Document
  x : Binary32
  height : Binary32
  text : List Char
  deriving DecidableEq, Repr

namespace Laying

def overruns (l : Laying) : Bool :=
  Binary32.lt (pageHeight - breakMargin) (l.before.y + l.height)

/-- The mark of the line if its upper edge is at `top`. -/
def mark (l : Laying) (top : Binary32) : Mark :=
  ⟨l.before.family, l.before.fontSize, l.before.color, l.x * pointsPerMm,
    (pageHeight - (top + l.height / 2 + l.before.sizeInMm * Binary32.ofRatio false 3 10)) *
      pointsPerMm,
    l.text⟩

/-- The line is found on the pages: as the first mark of a page that was not there before, if it
would have reached into the bottom margin, and otherwise at the cursor, behind the marks that the
last page had. -/
structure Placed (l : Laying) (pages : List (List Mark)) : Prop where
  opening : l.overruns = true →
    markAt? pages l.before.pages.length 0 = some (l.mark margin)
  joining : l.overruns = false →
    ∃ page, l.before.pages.getLast? = some page ∧
      markAt? pages (l.before.pages.length - 1) page.length = some (l.mark l.before.y)

theorem Placed.continues {l : Laying} {pages pages' : List (List Mark)} (h : l.Placed pages)
    (hc : Continues pages pages') : l.Placed pages' where
  opening hover := hc _ _ _ (h.opening hover)
  joining hover :=
    let ⟨page, hpage, hmark⟩ := h.joining hover
    ⟨page, hpage, hc _ _ _ hmark⟩

end Laying

/-- Between the one state of the pages and the other the lines were laid: each that is not empty
stands in its place, in this order behind what was drawn before, and nothing else came. -/
structure Gains (pages : List (List Mark)) (ls : List Laying) (pages' : List (List Mark)) :
    Prop where
  texts : pages'.flatten.map Mark.text =
    pages.flatten.map Mark.text ++ (ls.map Laying.text).filter (· ≠ [])
  continues : Continues pages pages'
  placed : ∀ l ∈ ls, l.text ≠ [] → l.Placed pages'

namespace Gains

variable {pages pages₁ pages₂ : List (List Mark)} {ls ls' : List Laying}

theorem refl (pages : List (List Mark)) : Gains pages [] pages :=
  ⟨by simp, .refl pages, by simp⟩

theorem trans (h : Gains pages ls pages₁) (h' : Gains pages₁ ls' pages₂) :
    Gains pages (ls ++ ls') pages₂ where
  texts := by rw [h'.texts, h.texts, List.map_append, List.filter_append, List.append_assoc]
  continues := h.continues.trans h'.continues
  placed l hl hne := by
    rcases List.mem_append.1 hl with hl | hl
    · exact (h.placed l hl hne).continues h'.continues
    · exact h'.placed l hl hne

/-- A page without marks is no line. -/
theorem addPage (pages : List (List Mark)) : Gains pages [] (pages ++ [[]]) :=
  ⟨by simp, .append _ _, by simp⟩

end Gains

/-! ## Laying -/

theorem pages_drawLine_append {d : Document} {pages : List (List Mark)} {page : List Mark}
    (h : d.pages = pages ++ [page]) (l : Laying) (hstyle : l.before.family = d.family ∧
      l.before.fontSize = d.fontSize ∧ l.before.color = d.color) (hne : l.text ≠ []) :
    (d.drawLine l.x l.height l.text).pages = pages ++ [page ++ [l.mark d.y]] := by
  obtain ⟨hfamily, hsize, hcolor⟩ := hstyle
  rw [Document.drawLine, if_neg hne]
  simp only [h, drawOnLast_append, Laying.mark, hfamily, hsize, hcolor, Document.sizeInMm]

theorem pages_drawLine_nil (d : Document) (x height : Binary32) :
    (d.drawLine x height []).pages = d.pages := by
  rw [Document.drawLine, if_pos rfl]

/-- Drawing a line at the end of the last page. -/
theorem gains_drawLine {l : Laying} {d : Document} {pages : List (List Mark)} {page : List Mark}
    (h : d.pages = pages ++ [page]) (hstyle : l.before.family = d.family ∧
      l.before.fontSize = d.fontSize ∧ l.before.color = d.color)
    (placed : ∀ pages', markAt? pages' pages.length page.length = some (l.mark d.y) →
      l.Placed pages') :
    Gains d.pages [l] (d.drawLine l.x l.height l.text).pages := by
  by_cases hne : l.text = []
  · rw [hne, pages_drawLine_nil]
    exact ⟨by simp [hne], .refl _, by simp [hne]⟩
  · rw [pages_drawLine_append h l hstyle hne]
    refine ⟨by simp [h, hne, Laying.mark], h ▸ .append_last _ _ _, ?_⟩
    intro l' hl' _
    obtain rfl := List.mem_singleton.1 hl'
    exact placed _ (markAt?_length pages page _)

/-- Laying one line. -/
theorem gains_cellLine (l : Laying) (h : l.before.pages ≠ []) :
    Gains l.before.pages [l] (l.before.cellLine l.x l.height l.text).pages := by
  have hcell : (l.before.cellLine l.x l.height l.text).pages =
      ((l.before.breakPage l.height).drawLine l.x l.height l.text).pages := rfl
  rw [hcell]
  by_cases hover : l.overruns = true
  · -- the line opens a page
    rw [show l.before.breakPage l.height = l.before.addPage from if_pos hover]
    have opened : Gains l.before.pages [] l.before.addPage.pages := .addPage _
    have drawn : Gains l.before.addPage.pages [l] _ :=
      gains_drawLine rfl ⟨rfl, rfl, rfl⟩ fun _ hmark =>
        ⟨fun _ => hmark, fun hjoins => absurd hover (by simp [hjoins])⟩
    exact opened.trans drawn
  · -- the line joins the last page
    rw [show l.before.breakPage l.height = l.before from if_neg hover]
    obtain ⟨pages, page, hpages⟩ : ∃ pages page, l.before.pages = pages ++ [page] :=
      ⟨_, _, (List.dropLast_concat_getLast h).symm⟩
    refine gains_drawLine hpages ⟨rfl, rfl, rfl⟩ fun pages' hmark =>
      ⟨fun hopens => absurd hopens hover, fun _ => ⟨page, by simp [hpages], ?_⟩⟩
    have hlength : l.before.pages.length - 1 = pages.length := by simp [hpages]
    rwa [hlength]

def Document.laid (x height : Binary32) (d : Document) : List (List Char) → List Laying
  | [] => []
  | line :: lines => ⟨d, x, height, line⟩ :: laid x height (d.cellLine x height line) lines

@[simp] theorem map_text_laid (x height : Binary32) (d : Document) (lines : List (List Char)) :
    (d.laid x height lines).map Laying.text = lines := by
  induction lines generalizing d with
  | nil => rfl
  | cons line lines ih => simp [Document.laid, ih]

theorem gains_laid (x height : Binary32) (lines : List (List Char)) {d : Document}
    (h : d.pages ≠ []) :
    Gains d.pages (d.laid x height lines) (lines.foldl (Document.cellLine x height) d).pages := by
  induction lines generalizing d with
  | nil => exact .refl _
  | cons line lines ih =>
    have first := gains_cellLine ⟨d, x, height, line⟩ h
    obtain ⟨_, drawn, -⟩ := Document.exists_draws_cellLine x height line h
    exact first.trans (ih drawn.hasPage)

/-! ## The lines of a cell -/

theorem wrap_max_one (width : Nat) (s : List Char) : wrap (max 1 width) s = wrap width s := by
  have paragraph : wrapParagraph (max 1 width) = wrapParagraph width := by
    funext s
    have : max 1 width - 1 = width - 1 := by omega
    rw [wrapParagraph, wrapParagraph, this]
  rw [wrap, wrap, paragraph]

theorem isLatin1_of_firstUnencodable?_eq_none {s : List Char}
    (h : Document.firstUnencodable? s = none) : ∀ c ∈ s, isLatin1 c = true := by
  unfold Document.firstUnencodable? at h
  split at h
  · rename_i i hi
    have hlt : i < s.length := (List.findIdx?_eq_some_iff_getElem.1 hi).1
    simp [hlt] at h
  · rename_i hnone
    simpa using hnone

/-- A cell that is drawn lays the lines of its prepared text, all of whose characters have a byte,
wrapped at one character a line or more. -/
theorem exists_laid_of_cell {c : Cell} {d d' : Document} (h : d.cell c = .ok d') :
    (∀ ch ∈ prepare c.text, isLatin1 ch = true) ∧ ∃ k, 1 ≤ k ∧
      Gains d.pages
        (d.laid (d.x + padding) (d.cellHeight c.height) (wrap k (prepare c.text))) d'.pages := by
  unfold Document.cell at h
  split at h
  · cases h
  · rename_i hpages
    dsimp only at h
    split at h
    · cases h
    · rename_i hlatin
      split at h
      · cases h
      · cases h
        refine ⟨isLatin1_of_firstUnencodable?_eq_none hlatin,
          max 1 (Document.usableWidth (d.cellWidth c.width) / d.charWidth).floorNat, by omega, ?_⟩
        rw [wrap_max_one]
        exact gains_laid _ _ _ hpages

/-! ## Characters of a line -/

theorem mem_of_mem_wrapRest {width : Nat} {s line : List Char} {c : Char}
    (hline : line ∈ wrapRest width s) (hc : c ∈ line) : c ∈ s := by
  fun_induction wrapRest width s with
  | case1 => simp at hline
  | case2 s => simp_all
  | case3 s _ _ p _ ih =>
    rcases List.mem_cons.1 hline with rfl | hline
    · exact List.mem_of_mem_take hc
    · exact List.mem_of_mem_drop (ih hline)
  | case4 s _ _ _ ih =>
    rcases List.mem_cons.1 hline with rfl | hline
    · exact List.mem_of_mem_take hc
    · exact List.mem_of_mem_drop (ih hline)

theorem mem_of_mem_pieces {p : Char → Bool} {s piece : List Char} {c : Char}
    (hpiece : piece ∈ pieces p s) (hc : c ∈ piece) : c ∈ s := by
  have : c ∈ (pieces p s).flatten := List.mem_flatten.2 ⟨piece, hpiece, hc⟩
  rw [flatten_pieces] at this
  exact (List.mem_filter.1 this).1

/-- A line has characters of the text only, and none of them ends a line. -/
theorem mem_of_mem_wrap {width : Nat} {s line : List Char} {c : Char}
    (hline : line ∈ wrap width s) (hc : c ∈ line) : c ∈ s ∧ c ≠ '\n' := by
  obtain ⟨paragraph, hparagraph, hline⟩ := List.mem_flatMap.1 hline
  have hmem : c ∈ paragraph := by
    rw [wrapParagraph] at hline
    split at hline
    · simp_all
    · exact mem_of_mem_wrapRest hline hc
  exact ⟨mem_of_mem_pieces hparagraph hmem, by simpa using eq_false_of_mem_pieces hparagraph hmem⟩

end ScriptPress.Page
