/-!
# Numerals

Runs of the digits 0 to 9, in which file formats and commands write natural numbers whatever the
language of the text around them.

## Main definitions

* `digitRun?` — the run at the beginning of a text, and what follows it.
* `leadingNumber?` — the number that the run stands for, and what follows it.

## Main statements

* `leadingNumber?_toDigits_append` — a number that was written is read back.
-/

namespace ScriptPress.Text

/-- The run of at least one digit at the beginning of a text, and what follows it. -/
def digitRun? (s : List Char) : Option (List Char × List Char) :=
  let digits := s.takeWhile Char.isDigit
  if digits.isEmpty then none else some (digits, s.dropWhile Char.isDigit)

def leadingNumber? (s : List Char) : Option (Nat × List Char) :=
  (digitRun? s).map fun (digits, rest) => (Nat.ofDigitChars 10 digits 0, rest)

theorem takeWhile_append_of_all {p : Char → Bool} {s t : List Char} (hs : ∀ c ∈ s, p c = true)
    (ht : ∀ c ∈ t.head?, p c = false) :
    (s ++ t).takeWhile p = s ∧ (s ++ t).dropWhile p = t := by
  rw [List.takeWhile_append_of_pos hs, List.dropWhile_append_of_pos hs]
  cases t with
  | nil => simp
  | cons c t => simp [ht c rfl]

/-- Digits in front of something else are a run. -/
theorem digitRun?_append {digits rest : List Char} (hne : digits ≠ [])
    (hdigits : ∀ c ∈ digits, c.isDigit = true) (hrest : ∀ c ∈ rest.head?, c.isDigit = false) :
    digitRun? (digits ++ rest) = some (digits, rest) := by
  obtain ⟨htake, hdrop⟩ := takeWhile_append_of_all hdigits hrest
  simp [digitRun?, htake, hdrop, hne]

/-- A number that was written in decimal digits is read back, whatever other than a digit follows
it. -/
theorem leadingNumber?_toDigits_append (n : Nat) {rest : List Char}
    (h : ∀ c ∈ rest.head?, c.isDigit = false) :
    leadingNumber? (Nat.toDigits 10 n ++ rest) = some (n, rest) := by
  have hdigits : ∀ c ∈ Nat.toDigits 10 n, c.isDigit = true := fun c hc =>
    Nat.isDigit_of_mem_toDigits (by decide) (by decide) hc
  simp [leadingNumber?, digitRun?_append Nat.toDigits_ne_nil hdigits h]

end ScriptPress.Text
