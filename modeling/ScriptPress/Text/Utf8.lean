/-!
# UTF-8

Texts as bytes. Encoding is exact; decoding accepts every byte sequence and puts U+FFFD in place of
what is no text: one for each longest beginning of an encoded character that breaks off, one for
each other byte that cannot begin a character.

## Main definitions

* `Bytes` — byte sequences.
* `utf8` — the encoding of a text.
* `utf8Length` — its number of bytes.
* `decodeUtf8Lossy` — the text of a byte sequence, with replacement characters.
* `decodeUtf8?` — the text of a byte sequence that is the encoding of one.
-/

namespace ScriptPress

abbrev Bytes := List UInt8

namespace Text

def utf8 (s : List Char) : Bytes := s.flatMap String.utf8EncodeChar

def utf8Length (s : List Char) : Nat := s.foldr (fun c n => c.utf8Size + n) 0

theorem length_utf8 (s : List Char) : (utf8 s).length = utf8Length s := by
  induction s with
  | nil => rfl
  | cons c s ih =>
    simp only [utf8, List.flatMap_cons, List.length_append, String.length_utf8EncodeChar,
      utf8Length, List.foldr_cons] at *
    omega

/-! ## Decoding -/

/-- The character U+FFFD that stands for bytes that are no text. -/
def replacement : Char := '\uFFFD'

/-- Whether a byte is one of those that continue a character. -/
def isContinuation (b : UInt8) : Bool := 0x80 ≤ b && b ≤ 0xBF

/-- Whether `b` may follow `lead` in an encoded character of three or four bytes: overlong forms,
surrogates and code points above U+10FFFF have no such second byte. -/
def isSecond (lead b : UInt8) : Bool :=
  if lead == 0xE0 then 0xA0 ≤ b && b ≤ 0xBF
  else if lead == 0xED then 0x80 ≤ b && b ≤ 0x9F
  else if lead == 0xF0 then 0x90 ≤ b && b ≤ 0xBF
  else if lead == 0xF4 then 0x80 ≤ b && b ≤ 0x8F
  else isContinuation b

/-- The character with the given leading bits and continuation bytes. -/
def assemble (leadBits : Nat) (rest : Bytes) : Char :=
  Char.ofNat (rest.foldl (fun n b => n * 64 + b.toNat % 64) leadBits)

/-- The character that begins with the byte `lead`, and how many of the bytes behind it belong to
it. `none` stands for bytes that are no character. -/
def decodeStep (lead : UInt8) (rest : Bytes) : Option Char × Nat :=
  if lead < 0x80 then (some (Char.ofNat lead.toNat), 0)
  else if 0xC2 ≤ lead && lead ≤ 0xDF then
    match rest with
    | b :: _ =>
      if isContinuation b then (some (assemble (lead.toNat % 32) [b]), 1) else (none, 0)
    | [] => (none, 0)
  else if 0xE0 ≤ lead && lead ≤ 0xEF then
    match rest with
    | b :: c :: _ =>
      if !isSecond lead b then (none, 0)
      else if !isContinuation c then (none, 1)
      else (some (assemble (lead.toNat % 16) [b, c]), 2)
    | [b] => (none, if isSecond lead b then 1 else 0)
    | [] => (none, 0)
  else if 0xF0 ≤ lead && lead ≤ 0xF4 then
    match rest with
    | b :: c :: d :: _ =>
      if !isSecond lead b then (none, 0)
      else if !isContinuation c then (none, 1)
      else if !isContinuation d then (none, 2)
      else (some (assemble (lead.toNat % 8) [b, c, d]), 3)
    | [b, c] =>
      (none, if !isSecond lead b then 0 else if isContinuation c then 2 else 1)
    | [b] => (none, if isSecond lead b then 1 else 0)
    | [] => (none, 0)
  else (none, 0)

/-- Decoding past `skip` bytes that belong to the character before. -/
def decodeFrom : (skip : Nat) → Bytes → List (Option Char)
  | _, [] => []
  | skip + 1, _ :: bs => decodeFrom skip bs
  | 0, b :: bs => (decodeStep b bs).1 :: decodeFrom (decodeStep b bs).2 bs

/-- The text of a byte sequence; U+FFFD stands for what is no text. -/
def decodeUtf8Lossy (bs : Bytes) : List Char := (decodeFrom 0 bs).map (·.getD replacement)

/-- The text that a byte sequence encodes, if it encodes one. -/
def decodeUtf8? (bs : Bytes) : Option (List Char) := (decodeFrom 0 bs).mapM id

end Text

end ScriptPress
