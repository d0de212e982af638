import Mathlib.Algebra.Group.Nat.Defs
import ScriptPress.Proofs.DrawingRun

/-!
# Cells over the rest of the line

The width patch gives a cell without a width what is left of the line, or a line of its own if that
is less than a fixed width. A document asks for more than that: what is left must take the padding
and one character of the current font. So the patch finds room wherever the cursor is as long as a
character fits into a cell of the fixed width. A larger one may be refused near the end of a line
though it would fit on the next.

Widths are rounded, and what is told of them holds because rounding does not pass by a number that
has few enough bits.

## Main definitions

* `Document.HasRoom` — a character of the current font fits into a cell.
* `Command.lengths` — the numbers that a drawing call is given.

## Main statements

* `le_nearest` — rounding does not pass by a number with few bits.
* `Document.HasRoom.of_minCellWidth` — what fits into the least rest of a line fits into all.
* `zeroWidth_cell_drawn_iff` — where a cell over the rest of the line is drawn.
* `nearlyFull_refused` — a cell that is refused though it would fit on the next line.
-/

namespace ScriptPress

/-! ## Rounding -/

/-- Rounding keeps to the multiples of the spacing, and does not go below one that a number is not
below. -/
theorem le_nearest_of_dvd {bits m n : Nat} (hm : spacing bits n ∣ m) (h : m ≤ n) :
    m ≤ nearest bits n 1 := by
  have down : n / spacing bits n * spacing bits n ≤ nearest bits n 1 := by
    simp only [nearest, Nat.one_mul, Nat.div_one]
    split
    · rfl
    · exact Nat.mul_le_mul_right _ (Nat.le_succ _)
  calc m = m / spacing bits n * spacing bits n := (Nat.div_mul_cancel hm).symm
    _ ≤ n / spacing bits n * spacing bits n :=
      Nat.mul_le_mul_right _ (Nat.div_le_div_right h)
    _ ≤ nearest bits n 1 := down

/-- Rounding does not go below a number of at most as many bits as it keeps. -/
theorem le_nearest {bits k e n : Nat} (hbits : 0 < bits) (hk : k ≤ 2 ^ bits)
    (h : k * 2 ^ e ≤ n) : k * 2 ^ e ≤ nearest bits n 1 := by
  have spaced : spacing bits n = 2 ^ (n.log2 + 1 - bits) := rfl
  by_cases he : n.log2 + 1 - bits ≤ e
  · refine le_nearest_of_dvd ?_ h
    rw [spaced]
    exact Nat.dvd_mul_left_of_dvd (Nat.pow_dvd_pow 2 he) k
  · -- the number is not above the highest bit of the other one, which is on the grid
    have hn : n ≠ 0 := by
      rintro rfl
      simp at he
      omega
    have top : 2 ^ n.log2 ≤ nearest bits n 1 := by
      refine le_nearest_of_dvd ?_ (Nat.log2_self_le hn)
      rw [spaced]
      exact Nat.pow_dvd_pow 2 (by omega)
    calc k * 2 ^ e ≤ 2 ^ bits * 2 ^ e := Nat.mul_le_mul_right _ hk
      _ = 2 ^ (bits + e) := (Nat.pow_add 2 bits e).symm
      _ ≤ 2 ^ n.log2 := Nat.pow_le_pow_right (by decide) (by omega)
      _ ≤ nearest bits n 1 := top

namespace Binary32

theorem lt_eq_false_iff {a b : Binary32} :
    lt a b = false ↔ ∀ x ∈ a.rank?, ∀ y ∈ b.rank?, y ≤ x := by
  unfold lt compareBy
  cases a.rank? <;> cases b.rank? <;> simp

theorem le_eq_false_iff {a b : Binary32} :
    le a b = false ↔ ∀ x ∈ a.rank?, ∀ y ∈ b.rank?, y < x := by
  unfold le compareBy
  cases a.rank? <;> cases b.rank? <;> simp

/-- A number of steps that is a whole number of at most 24 bits. -/
def IsWhole (steps : Nat) : Prop := ∃ k ≤ 2 ^ 24, steps = k * one

variable {b : Nat}

theorem IsWhole.le_nearest (hb : IsWhole b) {n : Nat} (h : b ≤ n) : b ≤ nearest 24 n 1 := by
  obtain ⟨k, hk, rfl⟩ := hb
  exact ScriptPress.le_nearest (by decide) hk h

theorem IsWhole.le_overflow (hb : IsWhole b) : b ≤ overflow := by
  obtain ⟨k, hk, rfl⟩ := hb
  have small : k * one ≤ 2 ^ 24 * one := Nat.mul_le_mul_right _ hk
  have large : 2 ^ 24 * one ≤ overflow := by decide +kernel
  exact Nat.le_trans small large

/-- Steps that are rounded do not go below a whole number. -/
theorem IsWhole.le_rank_ofSteps (hb : IsWhole b) {n : Nat} (h : b ≤ n) :
    ∀ z ∈ (ofSteps false n 1).rank?, (b : Int) ≤ z := by
  have rounded := hb.le_nearest h
  have bounded := hb.le_overflow
  intro z hz
  simp only [ofSteps] at hz
  split at hz
  · obtain rfl : ((nearest 24 n 1 : Nat) : Int) = z := by simpa [rank?, signed] using hz
    exact Int.ofNat_le.2 rounded
  · obtain rfl : ((overflow : Nat) : Int) = z := by simpa [rank?, signed] using hz
    exact Int.ofNat_le.2 bounded

/-- A number that is not below the sum of a whole number and another one is, less the other one, not
below the whole number. -/
theorem IsWhole.le_rank_sub (hb : IsWhole b) {a : Binary32} {m : Nat}
    (h : ∀ x ∈ a.rank?, (b : Int) + m ≤ x) :
    ∀ z ∈ (a - finite false m).rank?, (b : Int) ≤ z := by
  intro z hz
  cases a with
  | nan => cases hz
  | infinite s =>
    have large := h z hz
    omega
  | finite s u =>
    have large := h (signed s u) rfl
    have taken : signed s u + signed true m = signed s u - m := rfl
    change z ∈ (if signed s u + signed true m = 0 then finite (s && true) 0
      else ofSteps (signed s u + signed true m < 0) (signed s u + signed true m).natAbs 1).rank? at hz
    rw [taken] at hz
    split at hz
    · obtain rfl : 0 = z := by simpa [rank?, signed] using hz
      omega
    · rw [show decide (signed s u - (m : Int) < 0) = false by simp; omega] at hz
      exact hb.le_rank_ofSteps (by omega) z hz

def isFinite : Binary32 → Bool
  | finite _ _ => true
  | _ => false

end Binary32

namespace Page

open Document Text

/-! ## Room for a character -/

/-- A character of the current font fits into a cell of the width. -/
def Document.HasRoom (width : Binary32) (d : Document) : Prop :=
  Binary32.lt (usableWidth width) d.charWidth = false

/-- What fits into the least rest of a line that is used fits into every other. -/
theorem Document.HasRoom.of_minCellWidth {d : Document} (h : d.HasRoom minCellWidth)
    {width : Binary32} (hwidth : Binary32.lt width minCellWidth = false) : d.HasRoom width := by
  have least : minCellWidth.rank? = some ((3 * Binary32.one : Nat) + (2 * Binary32.one : Nat)) := by
    decide +kernel
  have text : (usableWidth minCellWidth).rank? = some ((3 * Binary32.one : Nat) : Int) := by
    decide +kernel
  have taken : 2 * padding = .finite false (2 * Binary32.one) := by decide +kernel
  have whole : Binary32.IsWhole (3 * Binary32.one) := ⟨3, by decide, rfl⟩
  rw [HasRoom, Binary32.lt_eq_false_iff] at h ⊢
  rw [Binary32.lt_eq_false_iff] at hwidth
  intro x hx y hy
  -- both numbers have a place in the order, with three millimetres between them
  have upper : y ≤ ((3 * Binary32.one : Nat) : Int) := h _ text y hy
  rw [usableWidth, taken] at hx
  have lower := whole.le_rank_sub (fun w hw => hwidth w hw _ least) x hx
  omega

/-- The least rest of a line that is used is still to be filled. -/
theorem Document.cellWidth_of_minCellWidth {width : Binary32}
    (h : Binary32.lt width minCellWidth = false) (d : Document) : d.cellWidth width = width := by
  have least : minCellWidth.rank? = some ((5 * Binary32.one : Nat) : Int) := by decide +kernel
  have zero : Binary32.rank? 0 = some 0 := by decide +kernel
  have positive : (0 : Int) < ((5 * Binary32.one : Nat) : Int) := by decide +kernel
  have hle : Binary32.le width 0 = false := by
    rw [Binary32.lt_eq_false_iff] at h
    rw [Binary32.le_eq_false_iff, zero]
    rintro x hx _ ⟨⟩
    have := h x hx _ least
    omega
  rw [cellWidth, hle, if_neg Bool.false_ne_true]

/-! ## Cells over the rest of the line -/

/-- A cell of characters that the font has is drawn with the encoding patch if and only if it is
drawn without. -/
theorem encoder_cell_ok_iff (p : PatchSet) {c : Cell} (d : Document)
    (hlatin : ∀ ch ∈ c.text, isLatin1 ch = true) :
    (p.encoder.cell c d).1 = .ok () ↔ ∃ d', d.cell c = .ok d' := by
  constructor
  · intro ok
    rcases hcall : p.encoder.cell c d with ⟨result, d'⟩
    obtain rfl : result = .ok () := by rwa [hcall] at ok
    obtain ⟨text, attempted, drawn⟩ := (drawsAsDocument_encoder p).ok hcall
    obtain rfl : text = c.text := attempted.eq_of_isLatin1 hlatin
    exact ⟨d', drawn⟩
  · rintro ⟨d', drawn⟩
    rw [p.encoder_cell_of_ok drawn]

/-- A cell of characters that the font has is drawn on an open page exactly if one of them fits into
it, in the place and at the width that the patches give it. -/
theorem apply_cell_ok_iff (p : PatchSet) {c : Cell} {d : Document} (hpages : d.pages ≠ [])
    (hlatin : ∀ ch ∈ c.text, isLatin1 ch = true) :
    ((p.apply Document.backend).cell c d).1 = .ok () ↔
      (p.start c d).HasRoom ((p.start c d).cellWidth (p.width c d)) := by
  have hstart : (p.start c d).pages ≠ [] := by rwa [p.pages_start]
  let placed : Cell := ⟨p.width c d, c.height, c.text⟩
  rw [p.apply_cell_eq]
  refine (encoder_cell_ok_iff p (c := placed) _ hlatin).trans ⟨?_, ?_⟩
  · rintro ⟨d', drawn⟩
    by_contra narrow
    have refused := Document.cell_eq_notEnoughSpace (c := placed) hstart hlatin
      (Bool.of_not_eq_false narrow)
    rw [drawn] at refused
    cases refused
  · exact Document.exists_cell_eq_ok (c := placed) hstart hlatin

/-- Where a character fits on a line, a cell over the rest of a line with characters that the font
has is drawn exactly if the rest is so small that the cell gets a line of its own, or the rest has
room for a character. It is always drawn where a character fits into the least rest that is used,
wherever the cursor is. -/
theorem zeroWidth_cell_drawn_iff (encoding : Bool) {c : Cell} {d : Document}
    (hpages : d.pages ≠ []) (hwidth : Binary32.eq c.width 0 = true)
    (hlatin : ∀ ch ∈ c.text, isLatin1 ch = true) (hline : d.HasRoom lineWidth) :
    let drawn := ((PatchSet.apply ⟨true, encoding⟩ Document.backend).cell c d).1 = .ok ()
    let rest := Document.backend.remainingWidth d
    (drawn ↔ Binary32.lt rest minCellWidth = true ∨ d.HasRoom rest) ∧
      (d.HasRoom minCellWidth → drawn) := by
  intro drawn rest
  let p : PatchSet := ⟨true, encoding⟩
  have hwidthAt : p.width c d = Document.backend.remainingWidth (p.start c d) := by
    simp [p, PatchSet.width, hwidth]
  have exactly : drawn ↔ Binary32.lt rest minCellWidth = true ∨ d.HasRoom rest := by
    refine (apply_cell_ok_iff p hpages hlatin).trans ?_
    cases hrest : Binary32.lt rest minCellWidth with
    | true =>
      -- the cell gets a line of its own, where there is room
      have broken : p.start c d = d.newLine none := by
        simp [p, rest, PatchSet.start, PatchSet.breaksLine, hwidth, hrest]
      have whole : (d.newLine none).cellWidth lineWidth = lineWidth :=
        Document.cellWidth_of_minCellWidth (by decide +kernel) _
      have room : (d.newLine none).HasRoom ((d.newLine none).cellWidth lineWidth) := by
        rw [whole]
        exact hline
      rw [hwidthAt, broken]
      exact iff_of_true room (.inl rfl)
    | false =>
      have same : p.start c d = d := by
        simp [p, rest, PatchSet.start, PatchSet.breaksLine, hwidth, hrest]
      rw [hwidthAt, same, Document.cellWidth_of_minCellWidth hrest]
      simp [rest]
  refine ⟨exactly, fun hleast => exactly.2 ?_⟩
  cases hrest : Binary32.lt rest minCellWidth with
  | true => exact .inl rfl
  | false => exact .inr (hleast.of_minCellWidth hrest)

def filledLine : Document :=
  (zeroWidthCell Document.backend).drawEach [.addPage, .cell ⟨0, 5, ['a']⟩] .empty

/-- A second cell over the rest of the line is drawn behind the first one. -/
theorem filledLine_drawn :
    filledLine.pages ≠ [] ∧ filledLine.HasRoom lineWidth ∧ filledLine.HasRoom minCellWidth ∧
      ((PatchSet.apply ⟨true, false⟩ Document.backend).cell ⟨0, 5, ['b']⟩ filledLine).1 =
        .ok () := by
  have hpages : filledLine.pages ≠ [] := by decide +kernel
  have hline : filledLine.HasRoom lineWidth := by
    unfold Document.HasRoom
    decide +kernel
  have hleast : filledLine.HasRoom minCellWidth := by
    unfold Document.HasRoom
    decide +kernel
  have hlatin : ∀ ch ∈ ['b'], isLatin1 ch = true := List.forall_mem_singleton.2 (by decide)
  exact ⟨hpages, hline, hleast,
    (zeroWidth_cell_drawn_iff false (c := ⟨0, 5, ['b']⟩) hpages (by decide +kernel) hlatin
      hline).2 hleast⟩

/-! ## A rest that is too small -/

/-- The numbers that a drawing call is given. -/
def Command.lengths : Command → List Binary32
  | addPage | setColor _ => []
  | setFont _ size | setFontSize size => [size]
  | newLine height => height.toList
  | cell c => [c.width, c.height]

/-- Drawing calls that leave six millimetres of a line, in a font of forty points. -/
def nearlyFull : List Command :=
  [.addPage, .setFont .courier 40, .cell ⟨184, 5, ['a']⟩]

/-- A character of the font is wider than what is left to the text of a cell, though it fits on a
line. The rest is no less than the width that is used, so the line is not broken, and the cell is
refused. -/
theorem nearlyFull_refused :
    let patched := zeroWidthCell Document.backend
    let d := patched.drawEach nearlyFull .empty
    (∀ command ∈ nearlyFull, ∀ length ∈ command.lengths, length.isFinite = true) ∧
      d.pages ≠ [] ∧ d.HasRoom lineWidth ∧ Binary32.eq (Cell.width ⟨0, 5, ['b']⟩) 0 = true ∧
      (∀ ch ∈ ['b'], isLatin1 ch = true) ∧
      patched.cell ⟨0, 5, ['b']⟩ d = (.error (.notEnoughSpace 6), d) := by
  intro patched d
  refine ⟨by decide +kernel, by decide +kernel, ?_, by decide +kernel,
    List.forall_mem_singleton.2 (by decide), by decide +kernel⟩
  unfold Document.HasRoom
  decide +kernel

end Page

end ScriptPress
