import Mathlib.Data.Option.Basic
import Mathlib.Tactic.SplitIfs
import ScriptPress.Json.Parser
import ScriptPress.Json.Printer

/-!
# Reading JSON back

A value is read from its text as it was written, whether the text stands on one line or is indented:
strings with their escapes, numbers with their exponents, and arrays and objects of any depth.

## Main definitions

* `Takes` — a reader takes a part off whatever text it stands in front of.
* `Whole` — all string literals in a value are texts.
* `Layout` — a way to write values.

## Main statements

* `stringRest_quote`, `numberRest_text` — strings and numbers are read as they were written.
* `Layout.parse?_eq` — so is every value, in every layout.
* `parse?_text`, `parse?_prettyText` — the two layouts that are in use.
-/

namespace ScriptPress.Json

open Text

/-! ## Strings -/

theorem hexValue?_hexDigit : ∀ n < 16, hexValue? (hexDigit n) = some n := by
  decide

def consUnit (c : Char) (read : List Unit16 × List Char) : List Unit16 × List Char :=
  (.char c :: read.1, read.2)

theorem stringUnits_escape {c d : Char} (s : List Char) (escape : shortEscape? c = some d)
    (other : c ≠ 'u') :
    stringUnits ('\\' :: c :: s) = (stringUnits s).map (consUnit d) := by
  rw [stringUnits, escape]
  · cases stringUnits s <;> rfl
  · exact fun _ _ _ _ _ same => absurd same other

theorem stringUnits_plain {c : Char} (s : List Char) (quotes : c ≠ '"') (backslash : c ≠ '\\')
    (control : ¬c.toNat < 0x20) :
    stringUnits (c :: s) = (stringUnits s).map (consUnit c) := by
  rw [stringUnits, if_neg (by simp [backslash, control])]
  · cases stringUnits s <;> rfl
  all_goals simp [quotes, backslash]

/-- A control character is written by its code. -/
theorem stringUnits_code {c : Char} (s : List Char) (control : c.toNat < 0x20) :
    stringUnits ('\\' :: 'u' :: '0' :: '0' :: hexDigit (c.toNat / 16) :: hexDigit (c.toNat % 16) ::
      s) = (stringUnits s).map (consUnit c) := by
  have code : hex4? '0' '0' (hexDigit (c.toNat / 16)) (hexDigit (c.toNat % 16)) =
      some c.toNat := by
    have zero : hexValue? '0' = some 0 := by decide
    have high := hexValue?_hexDigit (c.toNat / 16) (by omega)
    have low := hexValue?_hexDigit (c.toNat % 16) (by omega)
    simp only [hex4?, zero, high, low, Option.bind_eq_bind, Option.bind_some, Option.pure_def]
    congr 1
    omega
  have unit : Unit16.ofCode c.toNat = .char c := by
    rw [Unit16.ofCode, if_neg (by omega), Char.ofNat_toNat]
  rw [stringUnits, code]
  cases stringUnits s <;> simp [unit, consUnit]

/-- A character is read as it was written. -/
theorem stringUnits_quoteChar (c : Char) (s : List Char) :
    stringUnits (quoteChar c ++ s) = (stringUnits s).map (consUnit c) := by
  unfold quoteChar
  split_ifs with quotes backslash b t n f r control
  · exact stringUnits_escape s (by simp [quotes, shortEscape?]) (by decide)
  · exact stringUnits_escape s (by simp [backslash, shortEscape?]) (by decide)
  · exact stringUnits_escape s (by simp [b, shortEscape?]) (by decide)
  · exact stringUnits_escape s (by simp [t, shortEscape?]) (by decide)
  · exact stringUnits_escape s (by simp [n, shortEscape?]) (by decide)
  · exact stringUnits_escape s (by simp [f, shortEscape?]) (by decide)
  · exact stringUnits_escape s (by simp [r, shortEscape?]) (by decide)
  · exact stringUnits_code s control
  · exact stringUnits_plain s quotes backslash control

theorem stringUnits_quote (s rest : List Char) :
    stringUnits (s.flatMap quoteChar ++ '"' :: rest) = some (s.map .char, rest) := by
  induction s with
  | nil => simp [stringUnits]
  | cons c s ih =>
    rw [List.flatMap_cons, List.append_assoc, stringUnits_quoteChar, ih]
    rfl

theorem joinUnits?_map_char (s : List Char) : joinUnits? (s.map .char) = some s := by
  induction s with
  | nil => rfl
  | cons c s ih => simp [joinUnits?, ih]

/-- A string literal is read as it was written. -/
theorem stringRest_quote (s : String) (rest : List Char) :
    stringRest (s.toList.flatMap quoteChar ++ '"' :: rest) = some (some s, rest) := by
  simp [stringRest, stringUnits_quote, joinUnits?_map_char]

/-! ## Numbers -/

/-- No number goes on with the text. -/
def EndsNumber (rest : List Char) : Prop :=
  ∀ c ∈ rest.head?, c.isDigit = false ∧ c ≠ '.' ∧ c ≠ 'e' ∧ c ≠ 'E'

theorem isDigit_of_mem_toDigits {n : Nat} : ∀ c ∈ Nat.toDigits 10 n, c.isDigit = true :=
  fun _ mem => Nat.isDigit_of_mem_toDigits (by decide) (by decide) mem

theorem exists_toDigits_eq_cons (n : Nat) :
    ∃ c s, Nat.toDigits 10 n = c :: s ∧ c.isDigit = true := by
  obtain ⟨c, s, written⟩ := List.exists_cons_of_ne_nil (Nat.toDigits_ne_nil (b := 10) (n := n))
  exact ⟨c, s, written, isDigit_of_mem_toDigits c (written ▸ List.mem_cons_self)⟩

theorem toDigits_append_ne_cons {c : Char} (n : Nat) (rest s : List Char)
    (h : c.isDigit = false) : Nat.toDigits 10 n ++ rest ≠ c :: s := by
  obtain ⟨d, digits, written, digit⟩ := exists_toDigits_eq_cons n
  intro same
  rw [written, List.cons_append, List.cons.injEq] at same
  rw [same.1, h] at digit
  cases digit

/-- A number above 0 is written without a leading zero. -/
theorem head?_toDigits {n : Nat} (h : 0 < n) : (Nat.toDigits 10 n).head? ≠ some '0' := by
  induction n using Nat.strongRecOn with
  | _ n ih =>
    rcases Nat.lt_or_ge n 10 with small | large
    · have digits : ∀ d < 10, 0 < d → Nat.digitChar d ≠ '0' := by decide
      rw [Nat.toDigits_of_lt_base small]
      simpa using digits n small h
    · have init := ih (n / 10) (by omega) (by omega)
      rw [Nat.toDigits_of_base_le (by decide) large]
      rwa [List.head?_append, Option.or_of_isSome (List.isSome_head?.2 Nat.toDigits_ne_nil)]

theorem length_toDigits_of_head? {n : Nat} (h : (Nat.toDigits 10 n).head? = some '0') :
    (Nat.toDigits 10 n).length = 1 := by
  rcases Nat.eq_zero_or_pos n with rfl | pos
  · rfl
  · exact absurd h (head?_toDigits pos)

/-! ### Fractions and exponents -/

theorem fraction_of_head {rest : List Char} (h : ∀ c ∈ rest.head?, c ≠ '.') :
    fraction rest = some ([], rest) := by
  unfold fraction
  split
  · simp at h
  · rfl

theorem exponent?_of_head {rest : List Char} (h : ∀ c ∈ rest.head?, c ≠ 'e' ∧ c ≠ 'E') :
    exponent? rest = some (none, rest) := by
  unfold exponent?
  split
  · rename_i c s
    have other : ¬(c = 'e' ∨ c = 'E') := by simpa using h c rfl
    rw [if_neg other]
  · rfl

theorem exponent?_toDigits (n : Nat) {rest : List Char}
    (h : ∀ c ∈ rest.head?, c.isDigit = false) :
    exponent? ('e' :: (Nat.toDigits 10 n ++ rest)) = some (some (n : Int), rest) := by
  have read := leadingNumber?_toDigits_append n h
  have unsigned {c : Char} (other : c.isDigit = false) (s : List Char) :=
    toDigits_append_ne_cons n rest s other
  generalize Nat.toDigits 10 n ++ rest = s at read unsigned
  unfold exponent?
  dsimp only
  rw [if_pos (.inl rfl)]
  split
  · exact absurd rfl (unsigned (by decide) _)
  · exact absurd rfl (unsigned (by decide) _)
  · simp [read]

theorem exponent?_toString (e : Int) {rest : List Char}
    (h : ∀ c ∈ rest.head?, c.isDigit = false) :
    exponent? ('e' :: ((toString e).toList ++ rest)) = some (some e, rest) := by
  cases e with
  | ofNat n =>
    have written : (toString (Int.ofNat n)).toList = Nat.toDigits 10 n := Nat.toList_repr
    rw [written, exponent?_toDigits n h]
    rfl
  | negSucc n =>
    have written : (toString (Int.negSucc n)).toList = '-' :: Nat.toDigits 10 (n + 1) := by
      change ("-" ++ Nat.repr (n + 1)).toList = _
      rw [String.toList_append, Nat.toList_repr]
      rfl
    have negative : exponent? ('e' :: '-' :: (Nat.toDigits 10 (n + 1) ++ rest)) =
        (leadingNumber? (Nat.toDigits 10 (n + 1) ++ rest)).map
          (Prod.map (fun m : Nat => some (-m : Int)) id) := rfl
    rw [written, List.cons_append, negative, leadingNumber?_toDigits_append _ h]
    rfl

/-- A number without a fraction, by what stands behind its digits. -/
theorem unsignedNumber_toDigits (negative : Bool) (n : Nat) {exponent : Option Int}
    {rest behind : List Char} (digits : ∀ c ∈ rest.head?, c.isDigit = false)
    (places : ∀ c ∈ rest.head?, c ≠ '.') (read : exponent? rest = some (exponent, behind)) :
    unsignedNumber negative (Nat.toDigits 10 n ++ rest) =
      some (if !negative && exponent.isNone then .natural n
        else .decimal negative n (exponent.getD 0), behind) := by
  have run := digitRun?_append Nat.toDigits_ne_nil (isDigit_of_mem_toDigits (n := n)) digits
  have leading : ((Nat.toDigits 10 n).head? != some '0' || (Nat.toDigits 10 n).length == 1) =
      true := by
    by_cases zero : (Nat.toDigits 10 n).head? = some '0'
    · simp [length_toDigits_of_head? zero]
    · simp [zero]
  have passed : (guard True : Option Unit) = some () := rfl
  simp only [unsignedNumber, run, leading, passed, fraction_of_head places, read,
    Option.bind_eq_bind, Option.bind_some, Option.pure_def, List.append_nil,
    Nat.ofDigitChars_ten_toDigits]
  cases negative <;> cases exponent <;> simp

theorem numberRest_toDigits_append (n : Nat) (rest : List Char) :
    numberRest (Nat.toDigits 10 n ++ rest) =
      unsignedNumber false (Nat.toDigits 10 n ++ rest) := by
  unfold numberRest
  split
  · rename_i same
    exact absurd same (toDigits_append_ne_cons n rest _ (by decide))
  · rfl

/-- A number is read as it was written. -/
theorem numberRest_text (n : Number) {rest : List Char} (h : EndsNumber rest) :
    numberRest (n.text ++ rest) = some (n, rest) := by
  cases n with
  | natural n =>
    rw [Number.text, numberRest_toDigits_append, unsignedNumber_toDigits false n
      (fun c mem => (h c mem).1) (fun c mem => (h c mem).2.1)
      (exponent?_of_head fun c mem => (h c mem).2.2)]
    rfl
  | decimal negative m e =>
    have exponent := exponent?_toString e fun c mem => (h c mem).1
    have read := unsignedNumber_toDigits negative m (by simp) (by simp) exponent
    have written : (Number.decimal negative m e).text ++ rest = (if negative then ['-'] else []) ++
        (Nat.toDigits 10 m ++ 'e' :: ((toString e).toList ++ rest)) := by
      simp [Number.text]
    rw [written]
    cases negative with
    | false =>
      change numberRest (Nat.toDigits 10 m ++ _) = _
      rw [numberRest_toDigits_append, read]
      rfl
    | true => exact read

/-! ## Blanks -/

def IsGap (s : List Char) : Prop := ∀ c ∈ s, isSpace c = true

theorem isGap_nil : IsGap [] := by simp [IsGap]

theorem skipSpace_append {gap s : List Char} (blank : IsGap gap)
    (h : ∀ c ∈ s.head?, isSpace c = false) : skipSpace (gap ++ s) = s :=
  (takeWhile_append_of_all blank h).2

/-- No number goes on with a blank, a comma or a bracket. -/
theorem endsNumber_append {gap : List Char} {c : Char} (rest : List Char) (blank : IsGap gap)
    (h : EndsNumber [c]) : EndsNumber (gap ++ c :: rest) := by
  cases gap with
  | nil => simpa [EndsNumber] using h
  | cons b gap =>
    have space := blank b List.mem_cons_self
    simp only [isSpace, Bool.or_eq_true, beq_iff_eq] at space
    rcases space with ((rfl | rfl) | rfl) | rfl <;> simp [EndsNumber]

/-! ## Items -/

/-- The reader takes a part off a text in front of which it stands, with blanks before it, unless a
number could go on behind it. -/
def Takes {α : Type} (read : Reader α) (part : List Char) (a : α) : Prop :=
  ∀ gap rest, IsGap gap → EndsNumber rest → read (gap ++ (part ++ rest)) = some (a, rest)

/-- The text begins with neither a blank nor a closing bracket. -/
def Begins (part : List Char) : Prop :=
  ∃ c s, part = c :: s ∧ isSpace c = false ∧ c ≠ ']' ∧ c ≠ '\x7d'

section

variable {α : Type} {item : Reader α} {text : α → List Char} {as : List α} {closing : Char}
  {gap last : List Char}

theorem itemsRest_last {fuel : Nat} {s s' rest : List Char} {a : α} (read : item s = some (a, s'))
    (stop : skipSpace s' = closing :: rest) (other : closing ≠ ',') :
    itemsRest item closing (fuel + 1) s = some ([a], rest) := by
  simp [itemsRest, read, stop, other]

theorem itemsRest_comma {fuel : Nat} {s s' s'' rest : List Char} {a : α} {as : List α}
    (read : item s = some (a, s')) (stop : skipSpace s' = ',' :: s'')
    (others : itemsRest item closing fuel s'' = some (as, rest)) :
    itemsRest item closing (fuel + 1) s = some (a :: as, rest) := by
  simp [itemsRest, read, stop, others]

/-- Items with commas between them are read, wherever blanks stand. -/
theorem itemsRest_separated {fuel : Nat} (rest : List Char) (nonempty : as ≠ [])
    (takes : ∀ a ∈ as, Takes item (text a) a) (closes : closing = ']' ∨ closing = '\x7d')
    (hgap : IsGap gap) (hlast : IsGap last) (enough : as.length ≤ fuel) :
    itemsRest item closing fuel
      (gap ++ (separated (',' :: gap) (as.map text) ++ (last ++ closing :: rest))) =
        some (as, rest) := by
  induction as generalizing fuel with
  | nil => exact absurd rfl nonempty
  | cons a as ih =>
    obtain ⟨first, others⟩ := List.forall_mem_cons.1 takes
    obtain ⟨fuel, rfl⟩ := Nat.exists_eq_add_of_le' (Nat.le_of_add_left_le enough)
    cases as with
    | nil =>
      have ends : EndsNumber (last ++ closing :: rest) :=
        endsNumber_append rest hlast (by rcases closes with rfl | rfl <;> simp [EndsNumber])
      have stop : skipSpace (last ++ closing :: rest) = closing :: rest :=
        skipSpace_append hlast (by rcases closes with rfl | rfl <;> simp [isSpace])
      have written : separated (',' :: gap) ([a].map text) = text a := by simp [separated]
      rw [written]
      exact itemsRest_last (first gap _ hgap ends) stop (by rcases closes with rfl | rfl <;> decide)
    | cons b bs =>
      have written : separated (',' :: gap) ((a :: b :: bs).map text) ++ (last ++ closing :: rest) =
          text a ++ ',' :: (gap ++ (separated (',' :: gap) ((b :: bs).map text) ++
            (last ++ closing :: rest))) := by
        simp [separated, List.intercalate_cons_cons]
      rw [written]
      refine itemsRest_comma (first gap _ hgap (by simp [EndsNumber])) ?_
        (ih (by simp) others (Nat.le_of_succ_le_succ enough))
      simp [skipSpace, isSpace]

end

theorem length_le_separated_of_mem (sep : List Char) {parts : List (List Char)} {part : List Char}
    (h : part ∈ parts) : part.length ≤ (separated sep parts).length := by
  induction parts with
  | nil => cases h
  | cons p parts ih =>
    cases parts with
    | nil => simp_all [separated]
    | cons q parts =>
      simp only [separated, List.intercalate_cons_cons, List.length_append] at ih ⊢
      rcases List.mem_cons.1 h with rfl | h
      · omega
      · have := ih h
        omega

theorem length_le_separated (sep : List Char) {parts : List (List Char)}
    (h : ∀ part ∈ parts, part ≠ []) : parts.length ≤ (separated sep parts).length := by
  induction parts with
  | nil => simp
  | cons p parts ih =>
    obtain ⟨first, others⟩ := List.forall_mem_cons.1 h
    have pos := List.length_pos_iff.2 first
    cases parts with
    | nil => simpa [separated] using Nat.succ_le_of_lt pos
    | cons q parts =>
      have := ih others
      simp only [separated, List.intercalate_cons_cons, List.length_append,
        List.length_cons] at this ⊢
      omega

/-! ## Values -/

/-- All string literals in a value are texts. -/
inductive Whole : Json → Prop
  | null : Whole null
  | bool (b : Bool) : Whole (bool b)
  | number (n : Number) : Whole (number n)
  | string (s : String) : Whole (string s)
  | array {items : List Json} (h : ∀ j ∈ items, Whole j) : Whole (array items)
  | object {fields : List (String × Json)} (h : ∀ f ∈ fields, Whole f.2) : Whole (object fields)

/-- Parts between brackets, with blanks before each and behind the last. -/
def enclosed (opening closing : Char) (gap last : List Char) (parts : List (List Char)) :
    List Char :=
  if parts = [] then [opening, closing]
  else opening :: (gap ++ (separated (',' :: gap) parts ++ (last ++ [closing])))

theorem length_le_enclosed_of_mem (opening closing : Char) (gap last : List Char)
    {parts : List (List Char)} {part : List Char} (h : part ∈ parts) :
    part.length + 2 ≤ (enclosed opening closing gap last parts).length := by
  have inner := length_le_separated_of_mem (',' :: gap) h
  rw [enclosed, if_neg (List.ne_nil_of_mem h)]
  simp only [List.length_cons, List.length_append, List.length_nil]
  omega

section

variable {α : Type} {item : Reader α} {text : α → List Char} {as : List α}
  {closing : Char} {gap last : List Char}

/-- Items between brackets are read, wherever blanks stand. -/
theorem exists_items_enclosed (opening : Char) (rest : List Char)
    (takes : ∀ a ∈ as, Takes item (text a) a)
    (begins : ∀ a ∈ as, Begins (text a)) (closes : closing = ']' ∨ closing = '\x7d')
    (hgap : IsGap gap) (hlast : IsGap last) :
    ∃ s, enclosed opening closing gap last (as.map text) ++ rest = opening :: s ∧
      items item closing s = some (as, rest) := by
  cases as with
  | nil =>
    have stop : skipSpace (closing :: rest) = closing :: rest := by
      rcases closes with rfl | rfl <;> rfl
    exact ⟨closing :: rest, rfl, by simp [items, stop]⟩
  | cons a as =>
    obtain ⟨c, s, written, space, square, curly⟩ := begins a List.mem_cons_self
    have filled : ∀ part ∈ (a :: as).map text, part ≠ [] := by
      intro part mem
      obtain ⟨b, inside, rfl⟩ := List.mem_map.1 mem
      obtain ⟨d, t, written, -⟩ := begins b inside
      simp [written]
    have count := length_le_separated (',' :: gap) filled
    refine ⟨gap ++ (separated (',' :: gap) ((a :: as).map text) ++ (last ++ closing :: rest)),
      by simp [enclosed], ?_⟩
    have enough : (a :: as).length ≤
        (gap ++ (separated (',' :: gap) ((a :: as).map text) ++
          (last ++ closing :: rest))).length := by
      simp only [List.length_append, List.length_map] at count ⊢
      omega
    obtain ⟨s', front⟩ : ∃ s', separated (',' :: gap) ((a :: as).map text) ++
        (last ++ closing :: rest) = c :: s' := by
      cases as <;> simp [separated, written, List.intercalate_cons_cons]
    have stop : skipSpace (gap ++ (separated (',' :: gap) ((a :: as).map text) ++
        (last ++ closing :: rest))) = c :: s' := by
      rw [front]
      exact skipSpace_append hgap (by simp [space])
    have other : c ≠ closing := by rcases closes with rfl | rfl <;> assumption
    rw [items, stop]
    simp only [if_neg other]
    exact itemsRest_separated rest (by simp) takes closes hgap hlast enough

end

theorem begins_enclosed {opening : Char}
    (other : isSpace opening = false ∧ opening ≠ ']' ∧ opening ≠ '\x7d') (closing : Char)
    (gap last : List Char) (parts : List (List Char)) :
    Begins (enclosed opening closing gap last parts) := by
  unfold enclosed
  split <;> exact ⟨opening, _, rfl, other⟩

theorem begins_quote (name : String) (s : List Char) : Begins (quote name ++ s) :=
  ⟨'"', _, rfl, by decide⟩

/-! ### Values by their first character -/

section

variable {depth : Nat}

theorem takes_null : Takes (value (depth + 1)) "null".toList null := by
  intro gap rest blank _
  rw [value, skipSpace_append blank (by simp [isSpace])]
  simp [startsWith?]

theorem takes_bool (b : Bool) : Takes (value (depth + 1)) (toString b).toList (bool b) := by
  intro gap rest blank _
  cases b with
  | false =>
    rw [value, skipSpace_append blank (by simp [toString, isSpace])]
    simp [toString, startsWith?]
  | true =>
    rw [value, skipSpace_append blank (by simp [toString, isSpace])]
    simp [toString, startsWith?]

theorem takes_string (s : String) : Takes (value (depth + 1)) (quote s) (string s) := by
  intro gap rest blank _
  have written : quote s ++ rest = '"' :: (s.toList.flatMap quoteChar ++ '"' :: rest) := by
    simp [quote]
  rw [written, value, skipSpace_append blank (by simp [isSpace])]
  simp [stringRest_quote]

/-- What a number begins with. -/
theorem exists_number_text (n : Number) :
    ∃ c s, n.text = c :: s ∧ (c.isDigit = true ∨ c = '-') := by
  cases n with
  | natural m =>
    obtain ⟨c, s, written, digit⟩ := exists_toDigits_eq_cons m
    exact ⟨c, s, written, .inl digit⟩
  | decimal negative m e =>
    obtain ⟨c, s, written, digit⟩ := exists_toDigits_eq_cons m
    cases negative with
    | false =>
      exact ⟨c, s ++ 'e' :: (toString e).toList, by simp [Number.text, written], .inl digit⟩
    | true => exact ⟨'-', _, rfl, .inr rfl⟩

/-- The characters that begin a value of another kind, or that end a value. -/
def marks : List Char := [' ', '\t', '\n', '\r', ']', '\x7d', '"', '[', '\x7b', 'n', 't', 'f']

theorem ne_of_begins_number {c d : Char} (h : c.isDigit = true ∨ c = '-') (mem : d ∈ marks) :
    c ≠ d := by
  have neither : marks.all (fun d => !d.isDigit && d != '-') = true := by decide
  rintro rfl
  have other := List.all_eq_true.1 neither c mem
  rw [Bool.and_eq_true, Bool.not_eq_true', bne_iff_ne] at other
  rcases h with digit | minus
  · rw [digit] at other
    cases other.1
  · exact other.2 minus

theorem isSpace_of_begins_number {c : Char} (h : c.isDigit = true ∨ c = '-') :
    isSpace c = false := by
  have other {d : Char} := ne_of_begins_number (d := d) h
  have : c ≠ ' ' ∧ c ≠ '\t' ∧ c ≠ '\n' ∧ c ≠ '\r' :=
    ⟨other (by decide), other (by decide), other (by decide), other (by decide)⟩
  simp [isSpace, this]

theorem begins_number (n : Number) : Begins n.text := by
  obtain ⟨c, s, written, first⟩ := exists_number_text n
  exact ⟨c, s, written, isSpace_of_begins_number first, ne_of_begins_number first (by decide),
    ne_of_begins_number first (by decide)⟩

theorem takes_number (n : Number) : Takes (value (depth + 1)) n.text (number n) := by
  intro gap rest blank ends
  have read := numberRest_text n ends
  obtain ⟨c, s, written, first⟩ := exists_number_text n
  have other {d : Char} := ne_of_begins_number (d := d) first
  simp only [marks, List.mem_cons, List.not_mem_nil, or_false] at other
  rw [written] at read ⊢
  rw [value, skipSpace_append blank (by simpa using isSpace_of_begins_number first)]
  -- No other kind of value begins with what a number begins with.
  split <;> simp_all

theorem takes_array {items : List Json} {text : Json → List Char} {gap last : List Char}
    (takes : ∀ j ∈ items, Takes (value depth) (text j) j) (begins : ∀ j ∈ items, Begins (text j))
    (hgap : IsGap gap) (hlast : IsGap last) :
    Takes (value (depth + 1)) (enclosed '[' ']' gap last (items.map text)) (array items) := by
  intro before rest blank _
  obtain ⟨s, written, read⟩ :=
    exists_items_enclosed '[' rest takes begins (.inl rfl) hgap hlast
  rw [written, value, skipSpace_append blank (by simp [isSpace])]
  simp [read]

/-- A field is read, whatever blanks stand in front of its value. -/
theorem takes_field {read : Reader Json} {name : String} {part gap : List Char} {j : Json}
    (takes : Takes read part j) (hgap : IsGap gap) :
    Takes (field read) (quote name ++ ':' :: (gap ++ part)) (name, j) := by
  intro before rest blank ends
  have written : quote name ++ ':' :: (gap ++ part) ++ rest =
      '"' :: (name.toList.flatMap quoteChar ++ '"' :: ':' :: (gap ++ (part ++ rest))) := by
    simp [quote]
  have stop : ∀ s, skipSpace (':' :: s) = ':' :: s := fun s => by simp [skipSpace, isSpace]
  rw [written, field, skipSpace_append blank (by simp [isSpace])]
  simp [startsWith?, stringRest_quote, stop, takes gap rest hgap ends]

theorem takes_object {fields : List (String × Json)} {text : String × Json → List Char}
    {gap last : List Char} (takes : ∀ f ∈ fields, Takes (field (value depth)) (text f) f)
    (begins : ∀ f ∈ fields, Begins (text f)) (hgap : IsGap gap) (hlast : IsGap last) :
    Takes (value (depth + 1)) (enclosed '\x7b' '\x7d' gap last (fields.map text))
      (object fields) := by
  intro before rest blank _
  obtain ⟨s, written, read⟩ :=
    exists_items_enclosed '\x7b' rest takes begins (.inr rfl) hgap hlast
  rw [written, value, skipSpace_append blank (by simp [isSpace])]
  simp [read]

end

/-! ## Texts -/

theorem compactItems_eq (items : List Json) : compactItems items = items.map compact := by
  induction items with
  | nil => rfl
  | cons j items ih => simp [compactItems, ih]

theorem compactFields_eq (fields : List (String × Json)) :
    compactFields fields = fields.map fun f => quote f.1 ++ ':' :: compact f.2 := by
  induction fields with
  | nil => rfl
  | cons f fields ih => simp [compactFields, ih]

theorem compact_array (items : List Json) :
    compact (array items) = enclosed '[' ']' [] [] (items.map compact) := by
  cases items <;> simp [compact, compactItems_eq, enclosed, separated]

theorem compact_object (fields : List (String × Json)) :
    compact (object fields) = enclosed '\x7b' '\x7d' [] []
      (fields.map fun f => quote f.1 ++ ':' :: ([] ++ compact f.2)) := by
  cases fields <;> simp [compact, compactFields_eq, enclosed, separated]

theorem indentedItems_eq (level : Nat) (items : List Json) :
    indentedItems level items = items.map (indented level) := by
  induction items with
  | nil => rfl
  | cons j items ih => simp [indentedItems, ih]

theorem indentedFields_eq (level : Nat) (fields : List (String × Json)) :
    indentedFields level fields =
      fields.map fun f => quote f.1 ++ ':' :: ([' '] ++ indented level f.2) := by
  induction fields with
  | nil => rfl
  | cons f fields ih => simp [indentedFields, ih]

theorem block_eq (opening closing : Char) (level : Nat) (parts : List (List Char)) :
    block opening closing level parts =
      enclosed opening closing (newLine (level + 1)) (newLine level) parts := by
  cases parts <;> simp [block, enclosed]

theorem isGap_newLine (level : Nat) : IsGap (newLine level) := by
  intro c mem
  rcases List.mem_cons.1 mem with rfl | mem
  · rfl
  · rw [List.eq_of_mem_replicate mem]
    rfl

/-! ## Layouts -/

/-- A way to write values, with blanks in front of the parts of each level and behind colons. -/
structure Layout (text : Nat → Json → List Char) (gap : Nat → List Char)
    (behindColon : List Char) : Prop where
  isGap_gap (level : Nat) : IsGap (gap level)
  isGap_behindColon : IsGap behindColon
  null (level : Nat) : text level null = "null".toList
  bool (level : Nat) (b : Bool) : text level (bool b) = (toString b).toList
  number (level : Nat) (n : Number) : text level (number n) = n.text
  string (level : Nat) (s : String) : text level (string s) = quote s
  array (level : Nat) (items : List Json) :
    text level (array items) =
      enclosed '[' ']' (gap (level + 1)) (gap level) (items.map (text (level + 1)))
  object (level : Nat) (fields : List (String × Json)) :
    text level (object fields) =
      enclosed '\x7b' '\x7d' (gap (level + 1)) (gap level)
        (fields.map fun f => quote f.1 ++ ':' :: (behindColon ++ text (level + 1) f.2))

namespace Layout

variable {text : Nat → Json → List Char} {gap : Nat → List Char} {behindColon : List Char}

theorem begins (h : Layout text gap behindColon) (level : Nat) {j : Json} (whole : j.Whole) :
    Begins (text level j) := by
  cases whole with
  | null => exact ⟨'n', _, h.null level, by decide⟩
  | bool b => cases b <;> exact ⟨_, _, h.bool level _, by decide⟩
  | number n => exact h.number level n ▸ begins_number n
  | string s => exact ⟨'"', _, h.string level s, by decide⟩
  | array => exact h.array level _ ▸ begins_enclosed (by decide) _ _ _ _
  | object => exact h.object level _ ▸ begins_enclosed (by decide) _ _ _ _

theorem exists_succ_of_length_le (h : Layout text gap behindColon) {level : Nat} {j : Json}
    (whole : j.Whole) {depth : Nat} (deep : (text level j).length ≤ depth) :
    ∃ d, depth = d + 1 := by
  obtain ⟨c, s, written, -⟩ := h.begins level whole
  simp only [written, List.length_cons] at deep
  exact Nat.exists_eq_add_of_le' (Nat.le_of_add_left_le deep)

/-- A written value is read, with as many levels as its text is long. -/
theorem takes (h : Layout text gap behindColon) {j : Json} (whole : j.Whole) {level depth : Nat}
    (deep : (text level j).length ≤ depth) : Takes (value depth) (text level j) j := by
  induction whole generalizing level depth with
  | null =>
    obtain ⟨depth, rfl⟩ := h.exists_succ_of_length_le .null deep
    exact h.null level ▸ takes_null
  | bool b =>
    obtain ⟨depth, rfl⟩ := h.exists_succ_of_length_le (.bool b) deep
    exact h.bool level b ▸ takes_bool b
  | number n =>
    obtain ⟨depth, rfl⟩ := h.exists_succ_of_length_le (.number n) deep
    exact h.number level n ▸ takes_number n
  | string s =>
    obtain ⟨depth, rfl⟩ := h.exists_succ_of_length_le (.string s) deep
    exact h.string level s ▸ takes_string s
  | @array items whole ih =>
    obtain ⟨depth, rfl⟩ := h.exists_succ_of_length_le (.array whole) deep
    rw [h.array] at deep ⊢
    refine takes_array (fun j mem => ?_) (fun j mem => h.begins _ (whole j mem))
      (h.isGap_gap _) (h.isGap_gap _)
    have inner := length_le_enclosed_of_mem '[' ']' (gap (level + 1)) (gap level)
      (List.mem_map_of_mem (f := text (level + 1)) mem)
    exact ih j mem (by omega)
  | @object fields whole ih =>
    obtain ⟨depth, rfl⟩ := h.exists_succ_of_length_le (.object whole) deep
    rw [h.object] at deep ⊢
    refine takes_object (fun f mem => ?_) (fun f _ => begins_quote f.1 _)
      (h.isGap_gap _) (h.isGap_gap _)
    have inner := length_le_enclosed_of_mem '\x7b' '\x7d' (gap (level + 1)) (gap level)
      (List.mem_map_of_mem
        (f := fun f => quote f.1 ++ ':' :: (behindColon ++ text (level + 1) f.2)) mem)
    simp only [List.length_append, List.length_cons] at inner
    exact takes_field (ih f mem (by omega)) h.isGap_behindColon

/-- A value is read from its text. -/
theorem parse?_eq (h : Layout text gap behindColon) {j : Json} (whole : j.Whole) :
    parse? (text 0 j) = some j := by
  have read := h.takes whole (Nat.le_succ (text 0 j).length) [] [] isGap_nil (by simp [EndsNumber])
  simp only [List.nil_append, List.append_nil] at read
  simp only [parse?, read, Option.bind_eq_bind, Option.bind_some, skipSpace]
  rfl

end Layout

theorem layout_compact : Layout (fun _ => compact) (fun _ => []) [] where
  isGap_gap _ := isGap_nil
  isGap_behindColon := isGap_nil
  null _ := rfl
  bool _ _ := rfl
  number _ _ := rfl
  string _ _ := rfl
  array _ items := compact_array items
  object _ fields := compact_object fields

theorem layout_indented : Layout indented newLine [' '] where
  isGap_gap := isGap_newLine
  isGap_behindColon := by simp [IsGap, isSpace]
  null _ := rfl
  bool _ _ := rfl
  number _ _ := rfl
  string _ _ := rfl
  array level items := by rw [indented, block_eq, indentedItems_eq]
  object level fields := by rw [indented, block_eq, indentedFields_eq]

/-- A value is read from its text on one line. -/
theorem parse?_text {j : Json} (whole : j.Whole) : parse? j.text.toList = some j := by
  rw [text, String.toList_ofList]
  exact layout_compact.parse?_eq whole

/-- A value is read from its indented text. -/
theorem parse?_prettyText {j : Json} (whole : j.Whole) : parse? j.prettyText.toList = some j := by
  rw [prettyText, String.toList_ofList]
  exact layout_indented.parse?_eq whole

end ScriptPress.Json
