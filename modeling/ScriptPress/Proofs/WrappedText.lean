import ScriptPress.Page.Wrap

/-!
# What wrapping keeps

Preparing and wrapping a text move its characters to other lines. Apart from white space, which
stands for line ends, tabs and soft breaks, the lines show every character of the text in its order.

## Main definitions

* `withoutSpaces` — a text without its spaces.
* `ink` — a text without spaces, tabs, carriage returns and line feeds.

## Main statements

* `withoutSpaces_wrapRest` — a paragraph loses spaces only.
* `withoutSpaces_wrap_prepare` — a prepared and wrapped text shows all of its ink.
-/

namespace ScriptPress.Page

open Text

def withoutSpaces (s : List Char) : List Char := s.filter (· != ' ')

/-- The text without spaces, tabs, carriage returns and line feeds. -/
def ink (s : List Char) : List Char := s.filter (· ∉ [' ', '\t', '\r', '\n'])

@[simp] theorem withoutSpaces_append (s t : List Char) :
    withoutSpaces (s ++ t) = withoutSpaces s ++ withoutSpaces t :=
  List.filter_append ..

@[simp] theorem withoutSpaces_cons_space (s : List Char) :
    withoutSpaces (' ' :: s) = withoutSpaces s := by
  simp [withoutSpaces]

/-! ## Breaks -/

theorem lastIndex?_spec {α : Type} {p : α → Bool} {l : List α} {i : Nat}
    (h : lastIndex? p l = some i) : ∃ a, l[i]? = some a ∧ p a = true := by
  induction l generalizing i with
  | nil => simp [lastIndex?] at h
  | cons a l ih =>
    rw [lastIndex?] at h
    split at h
    · rename_i j hj
      obtain ⟨b, hb, hp⟩ := ih hj
      obtain rfl : j + 1 = i := by simpa using h
      exact ⟨b, by simpa using hb, hp⟩
    · split at h
      · obtain rfl : 0 = i := by simpa using h
        exact ⟨a, rfl, by assumption⟩
      · simp at h

/-- At a soft break stands a space. -/
theorem eq_append_of_softBreak? {width p : Nat} {s : List Char} (h : softBreak? width s = some p) :
    s = s.take p ++ ' ' :: s.drop (p + 1) := by
  unfold softBreak? at h
  obtain ⟨hlast, -⟩ := Option.filter_eq_some_iff.1 h
  obtain ⟨c, hc, hspace⟩ := lastIndex?_spec hlast
  obtain rfl : c = ' ' := by simpa using hspace
  rw [List.getElem?_take] at hc
  split at hc
  · obtain ⟨hp, hget⟩ := List.getElem?_eq_some_iff.1 hc
    rw [← hget, ← List.drop_eq_getElem_cons hp, List.take_append_drop]
  · simp at hc

/-! ## Lines -/

theorem withoutSpaces_wrapRest (width : Nat) (s : List Char) :
    withoutSpaces (wrapRest width s).flatten = withoutSpaces s := by
  fun_induction wrapRest width s with
  | case1 => rfl
  | case2 s _ _ => simp
  | case3 s _ _ p hbreak ih =>
    calc withoutSpaces (s.take p :: wrapRest width (s.drop (p + 1))).flatten
        = withoutSpaces (s.take p ++ ' ' :: s.drop (p + 1)) := by simp [ih]
      _ = withoutSpaces s := by rw [← eq_append_of_softBreak? hbreak]
  | case4 s _ _ _ ih =>
    calc withoutSpaces (s.take (width + 1) :: wrapRest width (s.drop (width + 1))).flatten
        = withoutSpaces (s.take (width + 1) ++ s.drop (width + 1)) := by
          rw [List.flatten_cons, withoutSpaces_append, ih, withoutSpaces_append]
      _ = withoutSpaces s := by rw [List.take_append_drop]

theorem withoutSpaces_wrapParagraph (width : Nat) (s : List Char) :
    withoutSpaces (wrapParagraph width s).flatten = withoutSpaces s := by
  unfold wrapParagraph
  split
  · simp [*]
  · exact withoutSpaces_wrapRest (width - 1) s

/-- Cut at separators, a text loses these and nothing else. -/
theorem flatten_pieces (p : Char → Bool) (s : List Char) :
    (pieces p s).flatten = s.filter (!p ·) := by
  induction s with
  | nil => rfl
  | cons c s ih =>
    rw [pieces]
    split
    · simp_all
    · split
      · exact absurd ‹_› (pieces_ne_nil p s)
      · simp_all

theorem withoutSpaces_wrap (width : Nat) (s : List Char) :
    withoutSpaces (wrap width s).flatten = withoutSpaces (s.filter (· != '\n')) := by
  have lines : ∀ paragraphs : List (List Char),
      withoutSpaces (paragraphs.flatMap (wrapParagraph width)).flatten =
        withoutSpaces paragraphs.flatten := by
    intro paragraphs
    induction paragraphs with
    | nil => rfl
    | cons s paragraphs ih =>
      rw [List.flatMap_cons, List.flatten_append, withoutSpaces_append, ih,
        withoutSpaces_wrapParagraph, List.flatten_cons, withoutSpaces_append]
  rw [wrap, lines, flatten_pieces]
  rfl

/-! ## Prepared texts -/

/-- A prepared text has no characters but those of the text, spaces and line feeds. -/
theorem mem_prepare {s : List Char} {c : Char} (h : c ∈ prepare s) :
    c ∈ s ∨ c = ' ' ∨ c = '\n' := by
  fun_induction prepare s <;> grind

theorem filter_prepare (s : List Char) :
    withoutSpaces ((prepare s).filter (· != '\n')) = ink s := by
  unfold withoutSpaces ink
  fun_induction prepare s with
  | case1 => rfl
  | case2 s ih => simpa using ih
  | case3 s _ ih => simpa using ih
  | case4 s _ _ ih => simpa using ih
  | case5 c s _ hcr htab ih =>
    by_cases hspace : c = ' ' <;> by_cases hnl : c = '\n' <;> simp_all

/-- The lines of a text, joined, are the text but for white space. -/
theorem withoutSpaces_wrap_prepare (width : Nat) (s : List Char) :
    withoutSpaces (wrap width (prepare s)).flatten = ink s := by
  rw [withoutSpaces_wrap, filter_prepare]

end ScriptPress.Page
