/-!
# White space

The white space that trimming removes: the Unicode property White_Space, which is wider than the
blanks of `Char.isWhitespace` (vertical tab, form feed, no-break space and the spaces of the
general punctuation block belong to it) and leaves out the zero-width characters.

## Main definitions

* `isBlank` — membership in White_Space.
* `dropEndWhile`, `takeEndWhile` — cut a list at its last element failing a predicate.
* `trimStart`, `trimEnd`, `trim` — a text without the white space at its ends.
-/

namespace ScriptPress.Text

/-- Membership in the Unicode property White_Space. -/
def isBlank (c : Char) : Bool :=
  let n := c.toNat
  (9 ≤ n && n ≤ 13) || n == 0x20 || n == 0x85 || n == 0xA0 || n == 0x1680 ||
    (0x2000 ≤ n && n ≤ 0x200A) || n == 0x2028 || n == 0x2029 || n == 0x202F || n == 0x205F ||
    n == 0x3000

/-! ## Cutting at the end -/

variable {α : Type}

/-- The list without the longest run of `p` at its end. -/
def dropEndWhile (p : α → Bool) : List α → List α
  | [] => []
  | a :: l =>
    match dropEndWhile p l with
    | [] => if p a then [] else [a]
    | b :: r => a :: b :: r

/-- The longest run of `p` at the end of the list. -/
def takeEndWhile (p : α → Bool) (l : List α) : List α :=
  l.drop (dropEndWhile p l).length

@[simp] theorem dropEndWhile_nil (p : α → Bool) : dropEndWhile p [] = [] := rfl

theorem dropEndWhile_isPrefix (p : α → Bool) (l : List α) : dropEndWhile p l <+: l := by
  induction l with
  | nil => simp
  | cons a l ih =>
    rw [dropEndWhile]
    split
    · split <;> simp
    · rename_i b r h
      rw [h] at ih
      exact (List.prefix_cons_inj a).2 ih

/-- Cutting a list in front of its last run loses nothing. -/
@[simp] theorem dropEndWhile_append_takeEndWhile (p : α → Bool) (l : List α) :
    dropEndWhile p l ++ takeEndWhile p l = l :=
  List.prefix_iff_eq_append.1 (dropEndWhile_isPrefix p l)

/-! ## Trimming -/

def trimStart (s : List Char) : List Char := s.dropWhile isBlank

def trimEnd (s : List Char) : List Char := dropEndWhile isBlank s

def trim (s : List Char) : List Char := trimEnd (trimStart s)

def isBlankText (s : List Char) : Bool := s.all isBlank

end ScriptPress.Text
