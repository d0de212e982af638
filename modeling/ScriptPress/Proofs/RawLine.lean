import Mathlib.Data.List.DropRight
import ScriptPress.Repair.Proposal

/-!
# Raw lines

A text has one cut into raw lines: pieces that hold a line feed at their end and nowhere else, where
the last piece may lack it. Whatever changes the pieces and leaves them such pieces changes nothing
about where the text is cut.

## Main definitions

* `IsRawLines` — the texts are lines, each with its own ending.

## Main statements

* `dropEndWhile_append_of_pos`, `dropEndWhile_append_of_getLast?`,
  `takeEndWhile_append_of_getLast?` — where a text is cut that ends in what is removed.
* `isRawLines_rawLines`, `IsRawLines.rawLines_flatten` — the raw lines of a text are its only cut.
* `line_induction` — induction on the lines of a text.
* `dropEndWhile_lineContent` — a line and its raw line differ in their ending only.
-/

namespace ScriptPress.Text

variable {α : Type} {p q : α → Bool} {l : List α}

/-! ## Cutting at the end -/

theorem dropEndWhile_eq_rdropWhile (p : α → Bool) (l : List α) :
    dropEndWhile p l = l.rdropWhile p := by
  induction l with
  | nil => rfl
  | cons a l ih =>
    have happ : (a :: l).rdropWhile p =
        if l.rdropWhile p = [] then if p a then [] else [a] else a :: l.rdropWhile p := by
      simp only [List.rdropWhile, List.reverse_cons, List.dropWhile_append, List.isEmpty_iff,
        List.reverse_eq_nil_iff]
      split
      · by_cases h : p a = true <;> simp [h]
      · simp
    rw [dropEndWhile, happ, ih]
    cases l.rdropWhile p <;> simp

theorem takeEndWhile_eq_rtakeWhile (p : α → Bool) (l : List α) :
    takeEndWhile p l = l.rtakeWhile p := by
  have h : l.rdropWhile p ++ takeEndWhile p l = l.rdropWhile p ++ l.rtakeWhile p := by
    rw [← dropEndWhile_eq_rdropWhile, dropEndWhile_append_takeEndWhile, dropEndWhile_eq_rdropWhile,
      List.rdropWhile_append_rtakeWhile]
  exact List.append_cancel_left h

theorem mem_of_mem_dropEndWhile {a : α} (h : a ∈ dropEndWhile p l) : a ∈ l :=
  (dropEndWhile_isPrefix p l).subset h

/-- What a cut removes satisfies the predicate. -/
theorem eq_true_of_mem_takeEndWhile {a : α} (h : a ∈ takeEndWhile p l) : p a = true :=
  List.mem_rtakeWhile_imp (takeEndWhile_eq_rtakeWhile p l ▸ h)

/-- The last element that a cut leaves fails the predicate. -/
theorem eq_false_of_getLast?_dropEndWhile {a : α} (h : (dropEndWhile p l).getLast? = some a) :
    p a = false := by
  rw [dropEndWhile_eq_rdropWhile, List.rdropWhile, List.getLast?_reverse] at h
  have := List.head?_dropWhile_not p l.reverse
  rwa [h] at this

/-- What satisfies the predicate behind a list is removed first. -/
theorem dropEndWhile_append_of_pos (s : List α) {t : List α} (ht : ∀ a ∈ t, p a = true) :
    dropEndWhile p (s ++ t) = dropEndWhile p s := by
  have hreverse : ∀ a ∈ t.reverse, p a = true := by simpa using ht
  rw [dropEndWhile_eq_rdropWhile, List.rdropWhile, List.reverse_append,
    List.dropWhile_append_of_pos hreverse, ← List.rdropWhile, dropEndWhile_eq_rdropWhile]

theorem dropEndWhile_append_of_getLast? {s t : List α} (ht : ∀ a ∈ t, p a = true)
    (hs : ∀ a ∈ s.getLast?, p a = false) : dropEndWhile p (s ++ t) = s := by
  rw [dropEndWhile_append_of_pos s ht, dropEndWhile_eq_rdropWhile, List.rdropWhile_eq_self_iff]
  intro hne h
  simp [hs _ (List.getLast?_eq_some_getLast hne)] at h

theorem takeEndWhile_append_of_getLast? {s t : List α} (ht : ∀ a ∈ t, p a = true)
    (hs : ∀ a ∈ s.getLast?, p a = false) : takeEndWhile p (s ++ t) = t := by
  simp [takeEndWhile, dropEndWhile_append_of_getLast? ht hs]

theorem dropEndWhile_congr (h : ∀ a ∈ l, p a = q a) : dropEndWhile p l = dropEndWhile q l := by
  induction l with
  | nil => rfl
  | cons a l ih => grind [dropEndWhile]

/-! ## White space at the ends of a text -/

theorem takeWhile_append_trimStart (s : List Char) : s.takeWhile isBlank ++ trimStart s = s :=
  List.takeWhile_append_dropWhile

theorem trimEnd_append_takeEndWhile (s : List Char) : trimEnd s ++ takeEndWhile isBlank s = s :=
  dropEndWhile_append_takeEndWhile isBlank s

@[simp] theorem trimStart_trimStart (s : List Char) : trimStart (trimStart s) = trimStart s :=
  List.dropWhile_idempotent ..

theorem trimStart_trim (s : List Char) : trimStart (trim s) = trim s := by
  rw [trim]
  cases e : trimEnd (trimStart s) with
  | nil => rfl
  | cons c t =>
    obtain ⟨u, hu⟩ : trimEnd (trimStart s) <+: trimStart s := dropEndWhile_isPrefix isBlank _
    have hhead := List.head?_dropWhile_not isBlank s
    rw [← trimStart, ← hu, e] at hhead
    exact List.dropWhile_cons_of_neg (by simpa using hhead)

@[simp] theorem trim_trim (s : List Char) : trim (trim s) = trim s := by
  rw [trim, trimStart_trim, trim]
  simp only [trimEnd, dropEndWhile_eq_rdropWhile, List.rdropWhile_idempotent]

theorem trimEnd_eq_nil_iff {s : List Char} : trimEnd s = [] ↔ ∀ c ∈ s, isBlank c = true := by
  rw [trimEnd, dropEndWhile_eq_rdropWhile, List.rdropWhile_eq_nil_iff]

theorem trim_eq_nil_iff {s : List Char} : trim s = [] ↔ ∀ c ∈ s, isBlank c = true := by
  rw [trim, trimEnd_eq_nil_iff]
  constructor
  · intro h
    have hhead := List.head?_dropWhile_not isBlank s
    have hnil : trimStart s = [] := by
      rw [← trimStart] at hhead
      cases e : trimStart s with
      | nil => rfl
      | cons c rest =>
        rw [e] at hhead h
        simp [h c (by simp)] at hhead
    exact List.dropWhile_eq_nil_iff.1 hnil
  · intro h c hc
    exact h c ((List.dropWhile_sublist _).subset hc)

/-! ## Texts cut behind their line feeds -/

theorem rawLines_of_not_mem {body : List Char} (hne : body ≠ []) (h : '\n' ∉ body) :
    rawLines body = [body] := by
  induction body with
  | nil => exact absurd rfl hne
  | cons c body ih =>
    simp only [List.mem_cons, not_or] at h
    rw [rawLines, if_neg (by simpa using Ne.symm h.1)]
    cases body with
    | nil => rfl
    | cons d body => rw [ih (by simp) h.2]

theorem rawLines_append_newline {body : List Char} (h : '\n' ∉ body) (s : List Char) :
    rawLines (body ++ '\n' :: s) = (body ++ ['\n']) :: rawLines s := by
  induction body with
  | nil => simp [rawLines]
  | cons c body ih =>
    simp only [List.mem_cons, not_or] at h
    rw [List.cons_append, rawLines, if_neg (by simpa using Ne.symm h.1), ih h.2]
    rfl

/-- The texts are lines with their endings: a line feed stands at the end of each and nowhere else,
and only the last one may lack it. -/
inductive IsRawLines : List (List Char) → Prop
  | nil : IsRawLines []
  | last {body : List Char} : body ≠ [] → '\n' ∉ body → IsRawLines [body]
  | cons {body : List Char} {ls : List (List Char)} :
      '\n' ∉ body → IsRawLines ls → IsRawLines ((body ++ ['\n']) :: ls)

theorem isRawLines_rawLines (s : List Char) : IsRawLines (rawLines s) := by
  induction s with
  | nil => exact .nil
  | cons c s ih =>
    rw [rawLines]
    split
    · exact @IsRawLines.cons [] _ (by simp) ih
    · rename_i hc
      have hc : '\n' ≠ c := fun e => hc (by simp [← e])
      generalize rawLines s = ls at ih
      cases ih with
      | nil => exact .last (by simp) (by simpa using hc)
      | last _ h => exact .last (by simp) (by simp [hc, h])
      | @cons body _ h hls => exact @IsRawLines.cons (c :: body) _ (by simp [hc, h]) hls

/-- Induction on the lines of a text. -/
@[elab_as_elim]
theorem line_induction {motive : List Char → Prop} (nil : motive [])
    (last : ∀ body, body ≠ [] → '\n' ∉ body → motive body)
    (line : ∀ body s, '\n' ∉ body → motive s → motive (body ++ '\n' :: s)) (s : List Char) :
    motive s := by
  rw [← flatten_rawLines s]
  have h := isRawLines_rawLines s
  generalize rawLines s = ls at h
  induction h with
  | nil => exact nil
  | last hne h => simpa using last _ hne h
  | cons h _ ih => simpa using line _ _ h ih

namespace IsRawLines

variable {ls : List (List Char)}

/-- Such texts are where their text is cut again. -/
theorem rawLines_flatten (h : IsRawLines ls) : rawLines ls.flatten = ls := by
  induction h with
  | nil => rfl
  | last hne h => simpa using rawLines_of_not_mem hne h
  | @cons body ls h _ ih =>
    rw [List.flatten_cons, List.append_assoc, List.singleton_append, rawLines_append_newline h, ih]

/-- The two kinds of raw lines. -/
theorem eq_or_eq (h : IsRawLines ls) {raw : List Char} (hraw : raw ∈ ls) :
    (raw ≠ [] ∧ '\n' ∉ raw) ∨ ∃ body, '\n' ∉ body ∧ raw = body ++ ['\n'] := by
  induction h with
  | nil => simp at hraw
  | last hne h => simp_all
  | @cons body ls h _ ih =>
    rcases List.mem_cons.1 hraw with rfl | hraw
    · exact .inr ⟨body, h, rfl⟩
    · exact ih hraw

/-- Lines stay lines when a function is applied to one of them that keeps the two kinds apart. -/
theorem modify {f : List Char → List Char} (h : IsRawLines ls)
    (hlast : ∀ body, body ≠ [] → '\n' ∉ body → f body ≠ [] ∧ '\n' ∉ f body)
    (hcons : ∀ body, '\n' ∉ body → ∃ body', '\n' ∉ body' ∧ f (body ++ ['\n']) = body' ++ ['\n'])
    (i : Nat) : IsRawLines (ls.modify i f) := by
  induction h generalizing i with
  | nil => simpa using IsRawLines.nil
  | @last body hne h =>
    cases i with
    | zero => exact .last (hlast body hne h).1 (hlast body hne h).2
    | succ i => simpa using IsRawLines.last hne h
  | @cons body ls h hls ih =>
    cases i with
    | zero =>
      obtain ⟨body', h', e⟩ := hcons body h
      rw [List.modify_zero_cons, e]
      exact .cons h' hls
    | succ i => exact .cons h (ih i)

end IsRawLines

/-! ## Lines and raw lines -/

theorem lineContent_of_not_mem {body : List Char} (h : '\n' ∉ body) : lineContent body = body := by
  fun_induction lineContent body with
  | case1 => rfl
  | case2 => simp at h
  | case3 => simp at h
  | case4 c s _ _ ih => rw [ih (by simp_all)]

/-- The ending of a line is its line feed and at most one carriage return in front of it. -/
theorem lineContent_append_newline {body : List Char} (h : '\n' ∉ body) :
    body = lineContent (body ++ ['\n']) ∨ body = lineContent (body ++ ['\n']) ++ ['\r'] := by
  induction body with
  | nil => exact .inl rfl
  | cons c body ih =>
    simp only [List.mem_cons, not_or] at h
    have hc : c ≠ '\n' := Ne.symm h.1
    by_cases hcr : c = '\r' ∧ body = []
    · obtain ⟨rfl, rfl⟩ := hcr
      exact .inr rfl
    · have e : lineContent (c :: body ++ ['\n']) = c :: lineContent (body ++ ['\n']) := by
        cases body <;> simp_all [lineContent]
      rw [e]
      exact (ih h.2).imp (congrArg (c :: ·)) (congrArg (c :: ·))

theorem isBlank_of_isEnding {c : Char} (h : Repair.isEnding c = true) : isBlank c = true := by
  have : c = '\n' ∨ c = '\r' := by simpa [Repair.isEnding] using h
  rcases this with rfl | rfl <;> decide

/-- A raw line is its content and an ending. -/
theorem exists_eq_lineContent_append {s raw : List Char} (h : raw ∈ rawLines s) :
    ∃ e, (∀ c ∈ e, Repair.isEnding c = true) ∧ raw = lineContent raw ++ e := by
  rcases (isRawLines_rawLines s).eq_or_eq h with ⟨-, hnl⟩ | ⟨body, hnl, rfl⟩
  · exact ⟨[], by simp, by rw [lineContent_of_not_mem hnl, List.append_nil]⟩
  · rcases lineContent_append_newline hnl with e | e
    · exact ⟨['\n'], by simp [Repair.isEnding], by rw [← e]⟩
    · have happ := congrArg (· ++ ['\n']) e
      exact ⟨['\r', '\n'], by simp [Repair.isEnding], by simpa using happ⟩

/-- Without the carriage returns at its end, a line is its raw line without line feeds and carriage
returns at the end. -/
theorem dropEndWhile_lineContent {s raw : List Char} (h : raw ∈ rawLines s) :
    dropEndWhile (· == '\r') (lineContent raw) = dropEndWhile Repair.isEnding raw := by
  have drop_cr : ∀ l : List Char, '\n' ∉ l →
      dropEndWhile Repair.isEnding l = dropEndWhile (· == '\r') l := by
    intro l hl
    apply dropEndWhile_congr
    intro c hc
    have : c ≠ '\n' := fun e => hl (e ▸ hc)
    simp [Repair.isEnding, this]
  rcases (isRawLines_rawLines s).eq_or_eq h with ⟨-, hnl⟩ | ⟨body, hnl, rfl⟩
  · rw [lineContent_of_not_mem hnl, drop_cr raw hnl]
  · rw [dropEndWhile_eq_rdropWhile Repair.isEnding, List.rdropWhile_concat_pos _ _ _ (by decide),
      ← dropEndWhile_eq_rdropWhile, drop_cr body hnl]
    rcases lineContent_append_newline hnl with e | e
    · rw [← e]
    · conv_rhs => rw [e]
      rw [dropEndWhile_eq_rdropWhile _ (_ ++ _), List.rdropWhile_concat_pos _ _ _ (by decide),
        dropEndWhile_eq_rdropWhile]

end ScriptPress.Text
