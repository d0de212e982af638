import ScriptPress.Page.Content
import ScriptPress.Proofs.RawLine

/-!
# Reading content streams

The content stream of a page can be read back. Each drawn line stands in it as one complete text
object: the operators that begin it, set font, colour and place, show the string, and end it. The
strings are read as a viewer reads them, with their escapes and nested parentheses.

## Main definitions

* `readString` — a string up to the parenthesis that closes it.
* `shownTexts?` — what a content stream shows that consists of complete text objects, with colours.
* `shownStrings?` — the strings alone.

## Main statements

* `readString_escapeFrom` — escaping is undone by reading.
* `shownTexts?_pageContent`, `shownStrings?_pageContent` — a page shows the texts of its marks.
-/

namespace ScriptPress.Page

open Text

/-! ## Strings -/

def prepend (c : Char) (read : List Char × List Char) : List Char × List Char :=
  (c :: read.1, read.2)

/-- The character that a backslash makes of `c`. -/
def escaped (c : Char) : Char := if c = 'r' then '\r' else c

/-- Reads a string from behind its first parenthesis to the one that closes it, and gives what
follows; `depth` more parentheses are open, and the character in front may be a backslash. -/
def readString : (depth : Nat) → (escape : Bool) → List Char → Option (List Char × List Char)
  | _, _, [] => none
  | depth, true, c :: s => (readString depth false s).map (prepend (escaped c))
  | depth, false, c :: s =>
    if c = '\\' then readString depth true s
    else if c = '(' then (readString (depth + 1) false s).map (prepend c)
    else if c = ')' then
      if depth = 0 then some ([], s) else (readString (depth - 1) false s).map (prepend c)
    else (readString depth false s).map (prepend c)

theorem readString_backslash (depth : Nat) (c : Char) (s : List Char) :
    readString depth false ('\\' :: c :: s) =
      (readString depth false s).map (prepend (escaped c)) := by
  rw [readString, if_pos rfl, readString]

theorem readString_open (depth : Nat) (s : List Char) :
    readString depth false ('(' :: s) = (readString (depth + 1) false s).map (prepend '(') := by
  rw [readString, if_neg (by decide), if_pos rfl]

theorem readString_close (depth : Nat) (s : List Char) :
    readString depth false (')' :: s) =
      if depth = 0 then some ([], s)
      else (readString (depth - 1) false s).map (prepend ')') := by
  rw [readString, if_neg (by decide), if_neg (by decide), if_pos rfl]

theorem readString_plain (depth : Nat) {c : Char} (s : List Char) (hescape : c ≠ '\\')
    (hopen : c ≠ '(') (hclose : c ≠ ')') :
    readString depth false (c :: s) = (readString depth false s).map (prepend c) := by
  rw [readString, if_neg hescape, if_neg hopen, if_neg hclose]

/-- Escaping is undone by reading. The parentheses in front of the string that find their partner
in it are open as it is read. -/
theorem readString_escapeFrom (opened : Nat) (s rest : List Char) :
    readString (escapeFrom opened s).2 false ((escapeFrom opened s).1 ++ ')' :: rest) =
      some (s, rest) := by
  fun_induction escapeFrom opened s with
  | case1 => exact readString_close 0 rest
  | case2 opened s out h ih =>
    rw [h] at ih
    simp [readString_backslash, ih, prepend, escaped]
  | case3 opened s out closed h ih =>
    rw [h] at ih
    simp [readString_open, ih, prepend]
  | case4 s out closed h ih =>
    rw [h] at ih
    simp [readString_backslash, ih, prepend, escaped]
  | case5 opened s hopened out closed h ih =>
    rw [h] at ih
    simp [readString_close, ih, prepend]
  | case6 opened s out closed h _ _ ih =>
    rw [h] at ih
    simp [readString_backslash, ih, prepend, escaped]
  | case7 opened s out closed h _ _ _ ih =>
    rw [h] at ih
    simp [readString_backslash, ih, prepend, escaped]
  | case8 opened c s hopen hclose out closed h hescape _ ih =>
    rw [h] at ih
    simp [readString_plain _ _ hescape hopen hclose, ih, prepend]

/-- Only open parentheses find a partner. -/
theorem snd_escapeFrom_le (opened : Nat) (s : List Char) : (escapeFrom opened s).2 ≤ opened := by
  fun_induction escapeFrom opened s <;> grind

/-- A string is read as it was escaped. -/
theorem readString_escapeString (s rest : List Char) :
    readString 0 false ((escapeFrom 0 s).1 ++ ')' :: rest) = some (s, rest) := by
  have balanced : (escapeFrom 0 s).2 = 0 := Nat.le_zero.1 (snd_escapeFrom_le 0 s)
  have read := readString_escapeFrom 0 s rest
  rwa [balanced] at read

/-! ## Operators -/

/-- The name of an operator: what stands behind the last blank of its line. -/
def operatorName (line : List Char) : List Char := takeEndWhile (· != ' ') line

theorem operatorName_operator (operands : List (List Char)) {name : String}
    (h : ' ' ∉ name.toList) : operatorName (operator operands name) = name.toList := by
  have plain : ∀ c ∈ name.toList, (c != ' ') = true := by
    intro c hc
    simpa using fun e : c = ' ' => h (e ▸ hc)
  refine takeEndWhile_append_of_getLast? plain ?_
  rcases List.eq_nil_or_concat operands with rfl | ⟨init, last, rfl⟩
  · simp
  · simp

/-- The string that an operator shows, if that is what it does. -/
def shownString? (line : List Char) : Option (List Char) :=
  match line with
  | '(' :: s =>
    match readString 0 false s with
    | some (text, rest) => if rest = " Tj".toList then some text else none
    | none => none
  | _ => none

theorem shownString?_operator (text : List Char) :
    shownString? (operator [escapeString text] "Tj") = some text := by
  have line : operator [escapeString text] "Tj" =
      '(' :: ((escapeFrom 0 text).1 ++ ')' :: " Tj".toList) := by
    simp [operator, escapeString]
  rw [line, shownString?, readString_escapeString]
  rfl

/-! ## Text objects -/

def textObject : List (List Char) := ["BT", "Tf", "rg", "Td", "Tj", "ET"].map String.toList

/-- A text that is shown, and the operator that sets its colour. -/
structure ShownText where
  fill : List Char
  text : List Char
  deriving DecidableEq

/-- The texts of operators that are complete text objects one after the other. -/
def readTextObjects : List (List Char) → Option (List ShownText)
  | [] => some []
  | bt :: tf :: rg :: td :: tj :: et :: lines =>
    if [bt, tf, rg, td, tj, et].map operatorName = textObject then do
      let text ← shownString? tj
      let texts ← readTextObjects lines
      return ⟨rg, text⟩ :: texts
    else none
  | _ => none

def Mark.shownText (m : Mark) : ShownText := ⟨m.color.fill, m.text⟩

theorem readTextObjects_operators (page : List Mark) :
    readTextObjects (page.flatMap Mark.operators) = some (page.map Mark.shownText) := by
  induction page with
  | nil => rfl
  | cons m page ih =>
    have names : m.operators.map operatorName = textObject := by
      simp only [Mark.operators, Color.fill, List.map_cons, List.map_nil, textObject]
      rw [operatorName_operator, operatorName_operator, operatorName_operator,
        operatorName_operator, operatorName_operator, operatorName_operator] <;> decide
    simp only [Mark.operators, List.flatMap_cons, List.cons_append, List.nil_append] at names ⊢
    rw [readTextObjects, if_pos names, shownString?_operator, ih]
    rfl

/-! ## Lines of a stream -/

def streamLines (content : List Char) : List (List Char) :=
  (pieces (· == '\n') content).filter (· ≠ [])

theorem streamLines_intercalate {lines : List (List Char)}
    (h : ∀ l ∈ lines, l ≠ [] ∧ '\n' ∉ l) : streamLines (List.intercalate ['\n'] lines) = lines := by
  have plain : ∀ l ∈ lines, ∀ c ∈ l, (c == '\n') = false := by
    intro l hl c hc
    simpa using fun e : c = '\n' => (h l hl).2 (e ▸ hc)
  cases lines with
  | nil => rfl
  | cons l lines =>
    have cut : pieces (· == '\n') (List.intercalate ['\n'] (l :: lines)) = l :: lines := by
      induction lines generalizing l with
      | nil => simpa using pieces_of_forall (plain l List.mem_cons_self)
      | cons l' lines ih =>
        obtain ⟨hl, hlines⟩ := List.forall_mem_cons.1 plain
        rw [List.intercalate_cons_cons, List.append_assoc, List.singleton_append,
          pieces_append_cons _ hl (by decide), ih l' (List.forall_mem_cons.1 h).2 hlines]
    rw [streamLines, cut, List.filter_eq_self]
    intro l' hl'
    simpa using (h l' hl').1

/-! ## Characters of operators -/

/-- A blank or an ASCII character that leaves a mark. -/
def IsGraphic (c : Char) : Prop := 0x20 ≤ c.toNat ∧ c.toNat ≤ 0x7E

instance (c : Char) : Decidable (IsGraphic c) :=
  inferInstanceAs (Decidable (0x20 ≤ c.toNat ∧ c.toNat ≤ 0x7E))

theorem forall_mem_of_all {P : Char → Prop} [DecidablePred P] {s : List Char}
    (h : (s.all fun c => decide (P c)) = true) : ∀ c ∈ s, P c := by
  simpa using h

theorem isDigit_of_mem_digits {n : Nat} {c : Char} (h : c ∈ Binary32.digits n) : c.isDigit :=
  Nat.isDigit_of_mem_toDigits (by decide) (by decide) h

theorem isDigit_of_mem_replicate {n : Nat} {c : Char} (h : c ∈ List.replicate n '0') :
    c.isDigit := by
  rw [List.eq_of_mem_replicate h]
  decide

/-- A number is written out in digits and a point. -/
theorem mem_positional {m : Nat} {exponent : Int} {c : Char}
    (h : c ∈ Binary32.positional m exponent) : c.isDigit ∨ c = '.' := by
  unfold Binary32.positional at h
  split at h
  · have padded : ∀ {n : Nat}, c ∈ List.replicate n '0' ++ Binary32.digits m → c.isDigit :=
      fun hc => (List.mem_append.1 hc).elim isDigit_of_mem_replicate isDigit_of_mem_digits
    simp only [Binary32.withPoint, List.mem_append (a := c) (s := List.take _ _),
      List.mem_cons] at h
    rcases h with h | rfl | h
    · exact .inl (padded (List.mem_of_mem_take h))
    · exact .inr rfl
    · exact .inl (padded (List.mem_of_mem_drop h))
  · exact .inl ((List.mem_append.1 h).elim isDigit_of_mem_digits isDigit_of_mem_replicate)

theorem mem_withSign {negative : Bool} {s : List Char} {c : Char}
    (h : c ∈ (String.ofList (Binary32.withSign negative s)).toList) : c ∈ s ∨ c = '-' := by
  cases negative with
  | false => exact .inl (by simpa [Binary32.withSign] using h)
  | true => simpa [Binary32.withSign, or_comm] using h

/-- A number is written in digits, a point and a sign, or as one of the words for numbers that have
no digits. -/
theorem mem_number {n : Binary32} {c : Char} (h : c ∈ number n) :
    c.isDigit ∨ c ∈ ['-', '.', 'N', 'a', 'i', 'n', 'f'] := by
  rw [number] at h
  cases n with
  | nan =>
    rw [Binary32.toDecimal] at h
    have word : c ∈ ['N', 'a', 'N'] := h
    simp only [List.mem_cons] at word ⊢
    grind
  | infinite negative =>
    rw [Binary32.toDecimal] at h
    have word : c ∈ ['i', 'n', 'f'] ∨ c = '-' := mem_withSign h
    simp only [List.mem_cons] at word ⊢
    grind
  | finite negative units =>
    have digits : ∀ d ∈ ['0'], d.isDigit = true := forall_mem_of_all (by decide)
    by_cases zero : units = 0
    · rw [zero, Binary32.toDecimal] at h
      exact (mem_withSign h).imp (digits c) fun sign => by simp [sign]
    · rw [Binary32.toDecimal.eq_4 negative units zero] at h
      generalize Binary32.shortest units = shortest at h
      obtain ⟨m, exponent⟩ := shortest
      rcases mem_withSign h with written | sign
      · exact (mem_positional written).imp id fun point => by simp [point]
      · exact .inr (by simp [sign])

theorem isGraphic_of_isDigit {c : Char} (h : c.isDigit = true) : IsGraphic c := by
  simp only [Char.isDigit, Bool.and_eq_true, decide_eq_true_eq, ge_iff_le,
    UInt32.le_iff_toNat_le] at h
  have low : 48 ≤ c.toNat := h.1
  have high : c.toNat ≤ 57 := h.2
  exact ⟨by omega, by omega⟩

theorem isGraphic_of_mem_number {n : Binary32} {c : Char} (h : c ∈ number n) : IsGraphic c := by
  have words : ∀ c ∈ ['-', '.', 'N', 'a', 'i', 'n', 'f'], IsGraphic c :=
    forall_mem_of_all (by decide)
  exact (mem_number h).elim isGraphic_of_isDigit (words c)

/-- Escaping adds backslashes and the letters behind them. -/
theorem mem_escapeFrom {opened : Nat} {s : List Char} {c : Char}
    (h : c ∈ (escapeFrom opened s).1) : c ∈ s ∨ c = '\\' ∨ c = 'r' := by
  fun_induction escapeFrom opened s <;> grind

theorem mem_escapeString {s : List Char} {c : Char} (h : c ∈ escapeString s) :
    c ∈ s ∨ IsGraphic c := by
  simp only [escapeString, List.cons_append, List.mem_cons, List.mem_append, List.not_mem_nil,
    or_false] at h
  rcases h with rfl | written | rfl
  · exact .inr (by decide)
  · rcases mem_escapeFrom written with given | rfl | rfl
    · exact .inl given
    · exact .inr (by decide)
    · exact .inr (by decide)
  · exact .inr (by decide)

/-- Operators have the characters of their operands and of their names, and blanks. -/
theorem forall_mem_operator {P : Char → Prop} {operands : List (List Char)} {name : String}
    (h : ∀ operand ∈ operands, ∀ c ∈ operand, P c) (hname : ∀ c ∈ name.toList, P c)
    (blank : P ' ') : ∀ c ∈ operator operands name, P c := by
  refine List.forall_mem_append.2 ⟨fun c hc => ?_, hname⟩
  obtain ⟨operand, hmem, hc⟩ := List.mem_flatMap.1 hc
  rcases List.mem_append.1 hc with hc | hc
  · exact h operand hmem c hc
  · rwa [List.mem_singleton.1 hc]

theorem operator_ne_nil {operands : List (List Char)} {name : String} (h : name.toList ≠ []) :
    operator operands name ≠ [] :=
  List.append_ne_nil_of_right_ne_nil _ h

/-- What stands in the lines of a mark besides its text is graphic. -/
theorem mem_operators (m : Mark) :
    ∀ line ∈ m.operators, line ≠ [] ∧ ∀ c ∈ line, c ∈ m.text ∨ IsGraphic c := by
  have text : ∀ c ∈ escapeString m.text, c ∈ m.text ∨ IsGraphic c := fun c => mem_escapeString
  have family : ∀ c ∈ '/' :: m.family.resourceName.toList, IsGraphic c := by
    cases m.family <;> exact forall_mem_of_all (by decide)
  have plain : ∀ n, ∀ c ∈ number n, IsGraphic c := fun _ _ => isGraphic_of_mem_number
  have shade : ∀ byte, ∀ c ∈ component byte, IsGraphic c := fun byte => plain _
  have line : ∀ {operands : List (List Char)} {name : String},
      (∀ operand ∈ operands, ∀ c ∈ operand, c ∈ m.text ∨ IsGraphic c) →
      (name.toList ≠ [] ∧ (name.toList.all fun c => decide (IsGraphic c)) = true) →
      operator operands name ≠ [] ∧ ∀ c ∈ operator operands name, c ∈ m.text ∨ IsGraphic c :=
    fun hoperands hname => ⟨operator_ne_nil hname.1, forall_mem_operator hoperands
      (fun c hc => .inr (forall_mem_of_all hname.2 c hc)) (.inr (by decide))⟩
  simp only [Mark.operators, Color.fill, List.forall_mem_cons]
  refine ⟨line ?_ (by decide), line ?_ (by decide), line ?_ (by decide), line ?_ (by decide),
    line ?_ (by decide), line ?_ (by decide), by simp⟩
  all_goals grind

/-! ## Pages -/

/-- The texts of a content stream that consists of complete text objects. -/
def shownTexts? (content : List Char) : Option (List ShownText) :=
  readTextObjects (streamLines content)

/-- The strings of such a stream. -/
def shownStrings? (content : List Char) : Option (List (List Char)) :=
  (shownTexts? content).map (·.map ShownText.text)

/-- What a page shows are its marks, each in a text object of its own. -/
theorem shownTexts?_pageContent {page : List Mark} (h : ∀ m ∈ page, '\n' ∉ m.text) :
    shownTexts? (pageContent page) = some (page.map Mark.shownText) := by
  have lines : ∀ line ∈ page.flatMap Mark.operators, line ≠ [] ∧ '\n' ∉ line := by
    intro line hline
    obtain ⟨m, hm, hline⟩ := List.mem_flatMap.1 hline
    obtain ⟨hne, hmem⟩ := mem_operators m line hline
    exact ⟨hne, fun newline => (hmem _ newline).elim (h m hm) (by decide)⟩
  rw [shownTexts?, pageContent, streamLines_intercalate lines, readTextObjects_operators]

/-- The strings of a page are the texts of its marks. -/
theorem shownStrings?_pageContent {page : List Mark} (h : ∀ m ∈ page, '\n' ∉ m.text) :
    shownStrings? (pageContent page) = some (page.map Mark.text) := by
  rw [shownStrings?, shownTexts?_pageContent h, Option.map_some, List.map_map]
  rfl

end ScriptPress.Page
