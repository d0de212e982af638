import ScriptPress.Text.Utf8

/-!
# Latin-1

The characters up to U+00FF, each of which is one byte. The standard fonts show these and no
others.

## Main definitions

* `isLatin1` — the character has a byte.
* `latin1Lossy` — a text with a question mark for each character that has none.
* `latin1Bytes`, `ofLatin1Bytes` — between texts and bytes, one character a byte.
-/

namespace ScriptPress.Text

def isLatin1 (c : Char) : Bool := c.toNat ≤ 0xFF

/-- The text with a question mark in place of each character outside Latin-1. -/
def latin1Lossy (s : List Char) : List Char := s.map fun c => if isLatin1 c then c else '?'

/-- One byte a character; the code points wrap at 256. -/
def latin1Bytes (s : List Char) : Bytes := s.map fun c => UInt8.ofNat c.toNat

def ofLatin1Bytes (bs : Bytes) : List Char := bs.map fun b => Char.ofNat b.toNat

@[simp] theorem length_latin1Lossy (s : List Char) : (latin1Lossy s).length = s.length := by
  simp [latin1Lossy]

/-- Every character of a re-encoded text has a byte. -/
theorem isLatin1_of_mem_latin1Lossy {s : List Char} {c : Char} (h : c ∈ latin1Lossy s) :
    isLatin1 c = true := by
  obtain ⟨d, _, rfl⟩ := List.mem_map.1 h
  split
  · assumption
  · rfl

/-- A text that fits is left as it is. -/
theorem latin1Lossy_eq_self {s : List Char} (h : ∀ c ∈ s, isLatin1 c = true) :
    latin1Lossy s = s := by
  induction s with
  | nil => rfl
  | cons c s ih => simp_all [latin1Lossy]

/-- A character with a byte keeps its code point. -/
theorem map_toNat_latin1Bytes {s : List Char} (h : ∀ c ∈ s, isLatin1 c = true) :
    (latin1Bytes s).map UInt8.toNat = s.map Char.toNat := by
  rw [latin1Bytes, List.map_map]
  refine List.map_congr_left fun c hc => ?_
  have hle : c.toNat ≤ 0xFF := by simpa [isLatin1] using h c hc
  exact UInt8.toNat_ofNat_of_lt' (Nat.lt_succ_of_le hle)

/-- Characters with a byte are read back. -/
theorem ofLatin1Bytes_latin1Bytes {s : List Char} (h : ∀ c ∈ s, isLatin1 c = true) :
    ofLatin1Bytes (latin1Bytes s) = s := by
  calc ofLatin1Bytes (latin1Bytes s)
      = ((latin1Bytes s).map UInt8.toNat).map Char.ofNat := by simp [ofLatin1Bytes]
    _ = s := by simp [map_toNat_latin1Bytes h, Function.comp_def, Char.ofNat_toNat]

end ScriptPress.Text
