/-!
# Pieces of a text

Cutting a text at separators, and looking for one text inside another.

## Main definitions

* `pieces` — what stands between the separators, one piece more than there are separators.
* `occursIn` — whether a text is a contiguous part of another.
* `startsWith?` — what follows a given beginning.
* `removeAll` — a text without the occurrences of a marker, found from left to right.
-/

namespace ScriptPress.Text

/-! ## Separators -/

/-- What stands between the characters satisfying `p`. -/
def pieces (p : Char → Bool) : List Char → List (List Char)
  | [] => [[]]
  | c :: s =>
    if p c then [] :: pieces p s
    else
      match pieces p s with
      | [] => [[c]]
      | l :: ls => (c :: l) :: ls

theorem pieces_ne_nil (p : Char → Bool) (s : List Char) : pieces p s ≠ [] := by
  cases s with
  | nil => simp [pieces]
  | cons c s =>
    rw [pieces]
    split
    · simp
    · split <;> simp

/-- Each separator makes one piece more. -/
theorem length_pieces (p : Char → Bool) (s : List Char) :
    (pieces p s).length = s.countP p + 1 := by
  induction s with
  | nil => rfl
  | cons c s ih =>
    rw [pieces]
    split
    · simp [*]
    · split
      · exact absurd ‹_› (pieces_ne_nil p s)
      · simp_all

/-- No separator is left in a piece. -/
theorem eq_false_of_mem_pieces {p : Char → Bool} {s l : List Char} {c : Char}
    (hl : l ∈ pieces p s) (hc : c ∈ l) : p c = false := by
  induction s generalizing l with
  | nil => simp_all [pieces]
  | cons d s ih =>
    rw [pieces] at hl
    split at hl
    · rcases List.mem_cons.1 hl with rfl | h
      · simp at hc
      · exact ih h hc
    · split at hl
      · simp_all
      · rename_i l' ls h
        rcases List.mem_cons.1 hl with rfl | h'
        · rcases List.mem_cons.1 hc with rfl | h''
          · simp_all
          · exact ih (h ▸ List.mem_cons_self) h''
        · exact ih (h ▸ List.mem_cons_of_mem _ h') hc

theorem pieces_of_forall {p : Char → Bool} {l : List Char} (h : ∀ c ∈ l, p c = false) :
    pieces p l = [l] := by
  induction l with
  | nil => rfl
  | cons c l ih =>
    obtain ⟨hc, hl⟩ := List.forall_mem_cons.1 h
    simp [pieces, hc, ih hl]

theorem pieces_append_cons {p : Char → Bool} {l : List Char} {c : Char} (s : List Char)
    (h : ∀ c ∈ l, p c = false) (hc : p c = true) : pieces p (l ++ c :: s) = l :: pieces p s := by
  induction l with
  | nil => simp [pieces, hc]
  | cons d l ih =>
    obtain ⟨hd, hl⟩ := List.forall_mem_cons.1 h
    simp [pieces, hd, ih hl]

/-! ## Looking for a text -/

def occursIn (t : List Char) : List Char → Bool
  | [] => t.isEmpty
  | c :: s => t.isPrefixOf (c :: s) || occursIn t s

theorem occursIn_iff_isInfix {t s : List Char} : occursIn t s = true ↔ t <:+: s := by
  induction s with
  | nil => simp [occursIn]
  | cons c s ih =>
    rw [occursIn, Bool.or_eq_true, ih, List.isPrefixOf_iff_prefix, List.infix_cons_iff]

/-- What follows `t` at the beginning of the text. -/
def startsWith? : (t : List Char) → List Char → Option (List Char)
  | [], s => some s
  | _ :: _, [] => none
  | a :: t, c :: s => if a == c then startsWith? t s else none

theorem startsWith?_eq_some_iff {t s r : List Char} :
    startsWith? t s = some r ↔ s = t ++ r := by
  induction t generalizing s with
  | nil => simp [startsWith?]
  | cons a t ih =>
    cases s with
    | nil => simp [startsWith?]
    | cons c s =>
      rw [startsWith?]
      split
      · rename_i h
        rw [ih, eq_of_beq h]
        simp
      · rename_i h
        simp only [reduceCtorEq, List.cons_append, List.cons.injEq, false_iff, not_and]
        intro e
        simp [e] at h

/-- What stands behind a character that `t` lacks makes no difference. -/
theorem startsWith?_append_cons {t : List Char} {c : Char} (hc : c ∉ t) (s u : List Char) :
    startsWith? t (s ++ c :: u) = (startsWith? t s).map (· ++ c :: u) := by
  induction t generalizing s with
  | nil => rfl
  | cons a t ih =>
    simp only [List.mem_cons, not_or] at hc
    cases s with
    | nil => simp [startsWith?, Ne.symm hc.1]
    | cons d s =>
      rw [List.cons_append, startsWith?, startsWith?, ih hc.2]
      split <;> rfl

/-- A recogniser looks at what stands at one place of a text and answers how many characters,
beyond the first, belong to what it knows there. -/
abbrev Recogniser := List Char → Option Nat

/-- The text without what the recogniser knows, found from left to right; `skip` characters still
belong to the last find. -/
def removeAllFrom (find : Recogniser) : (skip : Nat) → List Char → List Char
  | _, [] => []
  | skip + 1, _ :: s => removeAllFrom find skip s
  | 0, c :: s =>
    match find (c :: s) with
    | some more => removeAllFrom find more s
    | none => c :: removeAllFrom find 0 s

/-- The text without what the recogniser knows, found from left to right without overlaps. -/
def removeAll (find : Recogniser) (s : List Char) : List Char := removeAllFrom find 0 s

/-! ## Piece by piece -/

/-- Where each piece comes to something, so do all of them. -/
theorem mapM_eq_some_map {α β : Type} {f : α → Option β} {g : α → β} {l : List α}
    (h : ∀ a ∈ l, f a = some (g a)) : l.mapM f = some (l.map g) := by
  induction l with
  | nil => rfl
  | cons a l ih =>
    obtain ⟨here, there⟩ := List.forall_mem_cons.1 h
    simp [List.mapM_cons, here, ih there]

end ScriptPress.Text
