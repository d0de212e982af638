import ScriptPress.Proofs.WrappedText

/-!
# Line breaks

A paragraph is broken only where it does not fit, and it can be given back from its lines: at a
soft break one space went, at a hard one nothing did. A loop over places in the paragraph, with each
place checked, comes to the same lines.

## Main definitions

* `Cut`, `textOf` — a line with what stood behind it, and the text that lines were cut from.
* `Cut.Sound` — why a line was cut there.
* `linesFrom?`, `wrapChecked?` — wrapping by checked places in the text.

## Main statements

* `softBreak?_eq_some`, `softBreak?_eq_none` — where a paragraph is broken softly, and where not.
* `exists_cuts_wrapRest` — a paragraph as its lines.
* `linesFrom?_eq` — checked places come to the same lines.
* `wrap_within_width` — both, for every text and width.
-/

namespace ScriptPress.Page

open Text

/-! ## Last places -/

section

variable {α : Type} {p : α → Bool} {l : List α} {i : Nat}

theorem lastIndex?_eq_none_iff : lastIndex? p l = none ↔ ∀ a ∈ l, p a = false := by
  induction l with
  | nil => simp [lastIndex?]
  | cons a l ih =>
    rw [lastIndex?, List.forall_mem_cons, ← ih]
    cases lastIndex? p l <;> simp

/-- Behind the last place none satisfies the condition. -/
theorem forall_mem_drop_of_lastIndex? (h : lastIndex? p l = some i) :
    ∀ a ∈ l.drop (i + 1), p a = false := by
  induction l generalizing i with
  | nil => cases h
  | cons a l ih =>
    rw [lastIndex?] at h
    split at h
    · next j later =>
      obtain rfl : j + 1 = i := Option.some.inj h
      exact ih later
    · next none =>
      split at h
      · obtain rfl : 0 = i := Option.some.inj h
        exact lastIndex?_eq_none_iff.1 none
      · cases h

end

/-! ## Cuts -/

/-- A line, and whether a space went behind it. -/
structure Cut where
  line : List Char
  soft : Bool

def Cut.text (cut : Cut) : List Char := cut.line ++ if cut.soft then [' '] else []

def textOf (cuts : List Cut) : List Char := cuts.flatMap Cut.text

@[simp] theorem textOf_nil : textOf [] = [] := rfl

@[simp] theorem textOf_cons (cut : Cut) (cuts : List Cut) :
    textOf (cut :: cuts) = cut.text ++ textOf cuts := rfl

/-- A line at `width` characters a line was cut for a reason; `after` is what follows it. -/
structure Cut.Sound (width : Nat) (cut : Cut) (after : List Cut) : Prop where
  within : cut.line.length ≤ width
  /-- The text is broken only where the rest of it does not fit. -/
  needed : cut.soft = true ∨ after ≠ [] → width < (textOf (cut :: after)).length
  /-- A soft break is made at the last space that it can be made at. -/
  last : cut.soft = true → ' ' ∉ (textOf after).take (width - cut.line.length)
  /-- A hard break is made only where there is no space to break at. -/
  unbreakable : cut.soft = false → after ≠ [] →
    ' ' ∉ ((textOf (cut :: after)).take (width + 1)).tail

def AllSound (width : Nat) : List Cut → Prop
  | [] => True
  | cut :: after => cut.Sound width after ∧ AllSound width after

theorem AllSound.sound {width : Nat} {before after : List Cut} {cut : Cut}
    (h : AllSound width (before ++ cut :: after)) : cut.Sound width after := by
  induction before with
  | nil => exact h.1
  | cons _ before ih => exact ih h.2

theorem softBreak?_eq_some {width p : Nat} {s : List Char} (h : softBreak? width s = some p) :
    0 < p ∧ p ≤ width ∧ ' ' ∉ (s.drop (p + 1)).take (width - p) := by
  unfold softBreak? at h
  obtain ⟨last, positive⟩ := Option.filter_eq_some_iff.1 h
  have inside := lastIndex?_lt last
  have behind := forall_mem_drop_of_lastIndex? last
  rw [List.length_take] at inside
  refine ⟨by simpa using positive, by omega, fun mem => ?_⟩
  rw [List.drop_take, show width + 1 - (p + 1) = width - p by omega] at behind
  simpa using behind ' ' mem

theorem softBreak?_eq_none {width : Nat} {s : List Char} (h : softBreak? width s = none) :
    ' ' ∉ (s.take (width + 1)).tail := by
  unfold softBreak? at h
  intro mem
  cases last : lastIndex? (· == ' ') (s.take (width + 1)) with
  | none => simpa using lastIndex?_eq_none_iff.1 last ' ' (List.mem_of_mem_tail mem)
  | some p =>
    obtain rfl : p = 0 := by simpa [last, Option.filter_some] using h
    have behind := forall_mem_drop_of_lastIndex? last
    rw [List.drop_one] at behind
    simpa using behind ' ' mem

/-- A text that fits is one line. -/
theorem allSound_singleton {width : Nat} {s : List Char} (fits : s.length ≤ width) :
    AllSound width [⟨s, false⟩] :=
  ⟨{ within := fits, needed := by simp, last := by simp, unbreakable := by simp }, trivial⟩

/-- A paragraph is given back by its lines, with a space behind some of them. -/
theorem exists_cuts_wrapRest (width : Nat) (s : List Char) :
    ∃ cuts, cuts.map Cut.line = wrapRest width s ∧ textOf cuts = s ∧ AllSound (width + 1) cuts := by
  fun_induction wrapRest width s with
  | case1 => exact ⟨[], rfl, rfl, trivial⟩
  | case2 s some fits =>
    exact ⟨[⟨s, false⟩], rfl, by simp [Cut.text], allSound_singleton fits⟩
  | case3 s some long p soft ih =>
    obtain ⟨cuts, lines, rest, sound⟩ := ih
    obtain ⟨positive, within, last⟩ := softBreak?_eq_some soft
    have length : (s.take p).length = p := List.length_take_of_le (by omega)
    have whole : textOf (⟨s.take p, true⟩ :: cuts) = s := by
      rw [textOf_cons, rest]
      simpa [Cut.text] using (eq_append_of_softBreak? soft).symm
    refine ⟨⟨s.take p, true⟩ :: cuts, by rw [List.map_cons, lines], whole, ?_, sound⟩
    exact {
      within := Nat.le_trans (Nat.le_of_eq length) within
      needed := fun _ => by rw [whole]; omega
      last := fun _ => by rwa [rest, length]
      unbreakable := by simp }
  | case4 s some long hard ih =>
    obtain ⟨cuts, lines, rest, sound⟩ := ih
    have whole : textOf (⟨s.take (width + 1), false⟩ :: cuts) = s := by
      rw [textOf_cons, rest]
      simp [Cut.text]
    refine ⟨⟨s.take (width + 1), false⟩ :: cuts, by rw [List.map_cons, lines], whole, ?_, sound⟩
    exact {
      within := List.length_take_le _ _
      needed := fun _ => by rw [whole]; omega
      last := by simp
      unbreakable := fun _ _ => whole.symm ▸ softBreak?_eq_none hard }

/-- A paragraph is given back by its lines, also an empty one. -/
theorem exists_cuts_wrapParagraph (width : Nat) (s : List Char) :
    ∃ cuts, cuts.map Cut.line = wrapParagraph width s ∧ textOf cuts = s ∧
      AllSound (max width 1) cuts := by
  unfold wrapParagraph
  split
  · next empty =>
    exact ⟨[⟨[], false⟩], rfl, by simp [Cut.text, empty], allSound_singleton (Nat.zero_le _)⟩
  · rw [show max width 1 = width - 1 + 1 by omega]
    exact exists_cuts_wrapRest (width - 1) s

theorem wrapParagraph_of_fits {width : Nat} {s : List Char} (fits : s.length ≤ max width 1) :
    wrapParagraph width s = [s] := by
  unfold wrapParagraph
  split
  · next empty => rw [empty]
  · next some => rw [wrapRest, if_neg some, if_pos (by omega)]

/-! ## Checked places -/

/-- A sum that is a 64-bit number. -/
def plus? (a b : Nat) : Option Nat := if a + b < UInt64.size then some (a + b) else none

def minus? (a b : Nat) : Option Nat := if b ≤ a then some (a - b) else none

/-- What stands from one place to another, if these are places of the text. -/
def slice? (s : List Char) (i j : Nat) : Option (List Char) :=
  if i ≤ j ∧ j ≤ s.length then some ((s.drop i).take (j - i)) else none

/-- The place of the last space from `start` to `windowEnd`, unless it is the very first place. -/
def breakFrom? (s : List Char) (start windowEnd : Nat) : Option (Option Nat) := do
  let window ← slice? s start (← plus? (min windowEnd (← minus? s.length 1)) 1)
  let place ← (lastIndex? (· == ' ') window).mapM (plus? start)
  return place.filter (start < ·)

/-- The lines of a paragraph from a place on, cut in at most `steps` steps. There are none if a
place is not in the paragraph or no 64-bit number, or if the steps are not enough. -/
def linesFrom? (width : Nat) (s : List Char) (steps start : Nat) : Option (List (List Char)) :=
  if s.length ≤ start then some []
  else
    match steps with
    | 0 => none
    | steps + 1 => do
      if (← minus? s.length start) ≤ width then return [← slice? s start s.length]
      let windowEnd ← plus? start width
      match ← breakFrom? s start windowEnd with
      | some p => return (← slice? s start p) :: (← linesFrom? width s steps (← plus? p 1))
      | none => return (← slice? s start windowEnd) :: (← linesFrom? width s steps windowEnd)

/-- The lines of a paragraph by checked places, in no more steps than it has characters. -/
def paragraphChecked? (width : Nat) (s : List Char) : Option (List (List Char)) :=
  if s = [] then some [[]] else linesFrom? (max width 1) s s.length 0

def wrapChecked? (width : Nat) (s : List Char) : Option (List (List Char)) :=
  ((pieces (· == '\n') s).mapM (paragraphChecked? width)).map List.flatten

theorem plus?_eq_some {a b : Nat} (word : a + b < UInt64.size) : plus? a b = some (a + b) :=
  if_pos word

theorem minus?_eq_some {a b : Nat} (le : b ≤ a) : minus? a b = some (a - b) := if_pos le

theorem slice?_eq_some {s : List Char} {i j : Nat} (le : i ≤ j) (inside : j ≤ s.length) :
    slice? s i j = some ((s.drop i).take (j - i)) := if_pos ⟨le, inside⟩

/-- The place at which the rest of a paragraph is broken softly. -/
theorem breakFrom?_eq {width start : Nat} {s : List Char} (word : s.length < UInt64.size)
    (inside : start + width < s.length) :
    breakFrom? s start (start + width) =
      some ((softBreak? width (s.drop start)).map (start + ·)) := by
  have window : slice? s start (start + width + 1) = some ((s.drop start).take (width + 1)) := by
    rw [slice?_eq_some (by omega) (by omega), show start + width + 1 - start = width + 1 by omega]
  unfold breakFrom? softBreak?
  rw [minus?_eq_some (by omega)]
  simp only [Option.bind_eq_bind, Option.bind_some]
  rw [Nat.min_eq_left (by omega), plus?_eq_some (by omega), Option.bind_some, window,
    Option.bind_some]
  cases last : lastIndex? (· == ' ') ((s.drop start).take (width + 1)) with
  | none => rfl
  | some p =>
    have within := lastIndex?_lt last
    rw [List.length_take] at within
    have sum : plus? start p = some (start + p) := plus?_eq_some (by omega)
    simp only [Option.mapM_some, sum]
    cases p <;> simp [Option.filter_some]

theorem linesFrom?_eq {width steps start : Nat} {s : List Char} (word : s.length < UInt64.size)
    (enough : s.length ≤ start + steps) :
    linesFrom? (width + 1) s steps start = some (wrapRest width (s.drop start)) := by
  induction steps generalizing start with
  | zero =>
    have done : s.length ≤ start := enough
    rw [linesFrom?, if_pos done, List.drop_eq_nil_of_le done, wrapRest, if_pos rfl]
  | succ steps ih =>
    rw [linesFrom?]
    by_cases done : s.length ≤ start
    · rw [if_pos done, List.drop_eq_nil_of_le done, wrapRest, if_pos rfl]
    · have left : s.drop start ≠ [] := by simpa using done
      rw [if_neg done, minus?_eq_some (by omega), wrapRest, if_neg left, List.length_drop]
      simp only [Option.bind_eq_bind, Option.bind_some]
      by_cases fits : s.length - start ≤ width + 1
      · rw [if_pos fits, if_pos fits, slice?_eq_some (by omega) (Nat.le_refl _), ← List.length_drop,
          List.take_length]
        rfl
      · have inside : start + (width + 1) < s.length := by omega
        rw [if_neg fits, if_neg fits, plus?_eq_some (by omega), Option.bind_some,
          breakFrom?_eq word inside, Option.bind_some]
        cases soft : softBreak? (width + 1) (s.drop start) with
        | none =>
          have next : linesFrom? (width + 1) s steps (start + (width + 1)) = _ := ih (by omega)
          simp only [Option.map_none]
          rw [slice?_eq_some (by omega) (by omega), next, Nat.add_sub_cancel_left, List.drop_drop]
          rfl
        | some p =>
          obtain ⟨positive, within, -⟩ := softBreak?_eq_some soft
          have next : linesFrom? (width + 1) s steps (start + p + 1) = _ := ih (by omega)
          simp only [Option.map_some]
          rw [slice?_eq_some (by omega) (by omega), plus?_eq_some (by omega), Option.bind_some,
            Option.bind_some, next, Nat.add_sub_cancel_left, List.drop_drop, Nat.add_assoc]
          rfl

theorem paragraphChecked?_eq {width : Nat} {s : List Char} (word : s.length < UInt64.size) :
    paragraphChecked? width s = some (wrapParagraph width s) := by
  unfold paragraphChecked? wrapParagraph
  split
  · rfl
  · rw [show max width 1 = width - 1 + 1 by omega]
    exact linesFrom?_eq word (Nat.le_add_left _ _)

theorem length_le_of_mem_pieces {p : Char → Bool} {s paragraph : List Char}
    (mem : paragraph ∈ pieces p s) : paragraph.length ≤ s.length := by
  have within := (List.sublist_flatten_of_mem mem).length_le
  rw [flatten_pieces] at within
  exact Nat.le_trans within (List.length_filter_le _ _)

theorem wrapChecked?_eq {width : Nat} {s : List Char} (word : s.length < UInt64.size) :
    wrapChecked? width s = some (wrap width s) := by
  have each : (pieces (· == '\n') s).mapM (paragraphChecked? width) =
      some ((pieces (· == '\n') s).map (wrapParagraph width)) :=
    mapM_eq_some_map fun _ mem =>
      paragraphChecked?_eq (Nat.lt_of_le_of_lt (length_le_of_mem_pieces mem) word)
  rw [wrapChecked?, each, wrap, List.flatMap_def]
  rfl

/-- The lines of a text come of checked places, so no place is outside of a paragraph or beyond 64
bits, and every paragraph is done in as many steps as it has characters. No line is too long. A
paragraph that fits is a line. Every paragraph is given back by its lines, with one space behind
those that end at a soft break, and each line is cut where it is for a reason. -/
theorem wrap_within_width (width : Nat) (s : List Char) (word : s.length < UInt64.size) :
    wrapChecked? width s = some (wrap width s) ∧
      (∀ line ∈ wrap width s, line.length ≤ max width 1) ∧
      ∀ paragraph ∈ pieces (· == '\n') s,
        (paragraph.length ≤ max width 1 → wrapParagraph width paragraph = [paragraph]) ∧
        ∃ cuts, cuts.map Cut.line = wrapParagraph width paragraph ∧ textOf cuts = paragraph ∧
          ∀ before cut after, cuts = before ++ cut :: after → cut.Sound (max width 1) after := by
  refine ⟨wrapChecked?_eq word, fun line mem => ?_, fun paragraph mem => ⟨?_, ?_⟩⟩
  · obtain ⟨paragraph, -, mem⟩ := List.mem_flatMap.1 mem
    obtain ⟨cuts, lines, -, sound⟩ := exists_cuts_wrapParagraph width paragraph
    rw [← lines] at mem
    obtain ⟨cut, there, rfl⟩ := List.mem_map.1 mem
    obtain ⟨before, after, split⟩ := List.append_of_mem there
    exact (split ▸ sound).sound.within
  · exact wrapParagraph_of_fits
  · obtain ⟨cuts, lines, text, sound⟩ := exists_cuts_wrapParagraph width paragraph
    exact ⟨cuts, lines, text, fun before cut after split => (split ▸ sound).sound⟩

/-- Indentation stays, a long word is split, a space at the end of a paragraph goes, and an empty
paragraph is a line. -/
theorem indented_paragraph_within_width :
    let paragraph := "  ab cdefghij ".toList
    let s := paragraph ++ ['\n']
    s.length < UInt64.size ∧ paragraph ∈ pieces (· == '\n') s ∧
      wrap 4 s = ["  ab".toList, "cdef".toList, "ghij".toList, []] ∧
      ∃ cuts, cuts.map Cut.line = wrapParagraph 4 paragraph ∧ textOf cuts = paragraph ∧
        ∀ before cut after, cuts = before ++ cut :: after → cut.Sound 4 after := by
  intro paragraph s
  have word : s.length < UInt64.size := by decide +kernel
  have mem : paragraph ∈ pieces (· == '\n') s := by decide +kernel
  obtain ⟨checked, -, paragraphs⟩ := wrap_within_width 4 s word
  have lines : wrapChecked? 4 s = some ["  ab".toList, "cdef".toList, "ghij".toList, []] := by
    decide +kernel
  exact ⟨word, mem, Option.some.inj (checked.symm.trans lines), (paragraphs paragraph mem).2⟩

end ScriptPress.Page
