import ScriptPress.Proofs.OneCall
import ScriptPress.Script.Quote

/-!
# Sizes written as literals

A method call of one of the four shapes, with a decimal literal for its size, in a script without
other calls. The new size takes the place of the literal if that is a whole number. Of a literal
with a fraction only the digits in front of the point are taken, or none at all, so the point stays.

## Main definitions

* `Face`, `Decimal` — a quoted name of a face, and a decimal literal.
* `SizeShape` — the shapes of calls, with their face.
* `IsNeutral` — a text without the names of calls and without markers.

## Main statements

* `SizeShape.knows_call` — the calls of a shape are of one kind.
* `resizeFonts_methodCall` — a whole number gives way to the new size.
* `clean_methodCall_iff` — which literals give way to it.
-/

namespace ScriptPress.Source

open Text

variable {name size s pre post d : List Char} {c : Char}

/-! ## Shapes of calls -/

/-- A quoted name of a face. -/
structure Face where
  quote : Char
  name : List Char
  isQuote : Script.isQuote quote = true
  letters : ∀ c ∈ name, isWord c = true ∨ c = '-'

namespace Face

def text (face : Face) : List Char := face.quote :: (face.name ++ [face.quote])

/-- No sign of a call stands in the name of a face, and no marker begins in it. -/
theorem not_mem (face : Face) (hc : c ∈ ['(', ')', ',', '=', '`', '[']) : c ∉ face.text := by
  have signs : ['(', ')', ',', '=', '`', '['].all
      (fun c => !isWord c && c != '-' && !Script.isQuote c) = true := by decide
  obtain ⟨⟨hword, hhyphen⟩, hquote⟩ :
      (isWord c = false ∧ c ≠ '-') ∧ Script.isQuote c = false := by
    simpa using List.all_eq_true.1 signs c hc
  have hne : c ≠ face.quote := by
    rintro rfl
    simp [face.isQuote] at hquote
  have hname : c ∉ face.name := fun hmem => by
    simpa [hword, hhyphen] using face.letters c hmem
  simp [text, hne, hname]

theorem text_ne_nil (face : Face) : face.text ≠ [] := List.cons_ne_nil _ _

theorem isPositional (face : Face) : ∀ c ∈ face.text, isPositional c = true := by
  intro c hc
  simp only [Source.isPositional, Bool.and_eq_true, bne_iff_ne]
  refine ⟨⟨?_, ?_⟩, ?_⟩ <;> rintro rfl <;> exact face.not_mem (by decide) hc

end Face

inductive SizeShape
  | only
  | keyword (face : Face)
  | last (face : Face)
  | second (face : Face)

namespace SizeShape

def callName : SizeShape → List Char
  | only => "set_font_size".toList
  | keyword _ | last _ => "set_font".toList
  | second _ => "setFont".toList

/-- What stands between the parenthesis and the size. -/
def front : SizeShape → List Char
  | only => []
  | keyword face => face.text ++ ", size=".toList
  | last face | second face => face.text ++ ", ".toList

def methodCall (shape : SizeShape) (size : List Char) : List Char :=
  '.' :: (shape.callName ++ '(' :: (shape.front ++ size ++ [')']))

theorem callName_mem (shape : SizeShape) : shape.callName ∈ callNames := by
  cases shape with
  | only => exact List.mem_cons_self
  | keyword | last => exact List.mem_cons_of_mem _ List.mem_cons_self
  | second => exact List.mem_cons_of_mem _ (List.mem_cons_of_mem _ List.mem_cons_self)

theorem not_mem_front (shape : SizeShape) (hc : c ∈ ['(', ')', '`', '[']) : c ∉ shape.front := by
  have signs : ∀ c ∈ ['(', ')', '`', '['],
      c ∈ ['(', ')', ',', '=', '`', '['] ∧ c ∉ ", size=".toList ∧ c ∉ ", ".toList := by simp
  obtain ⟨hface, hkeyword, hcomma⟩ := signs c hc
  cases shape with
  | only => exact List.not_mem_nil
  | keyword face =>
    rw [front, List.mem_append, not_or]
    exact ⟨face.not_mem hface, hkeyword⟩
  | last face | second face =>
    rw [front, List.mem_append, not_or]
    exact ⟨face.not_mem hface, hcomma⟩

theorem not_mem_front_append (shape : SizeShape) (hd : IsNumeral d)
    (hc : c ∈ ['(', ')', '`', '[']) : c ∉ shape.front ++ d := by
  have signs : ∀ c ∈ ['(', ')', '`', '['], isDigit c = false := by simp [isDigit]
  rw [List.mem_append, not_or]
  exact ⟨shape.not_mem_front hc, hd.not_mem (signs c hc)⟩

def sizeKind : SizeShape → SizeKind
  | only => .only
  | keyword _ => .keyword
  | last _ => .last
  | second _ => .second

/-- The sign of the size argument is the only one in front of the size. -/
theorem isSizeFront_keyword (face : Face) : IsSizeFront (keyword face).front where
  sign := ⟨face.text ++ ", ".toList, "size".toList ++ [] ++ ['='] ++ [], by simp [front],
    .mk (by simp) (by simp)⟩
  not_mem := (keyword face).not_mem_front (by decide)
  first := by
    rintro ⟨x, _, c, t, htext, @⟨gap, gap', -, -⟩, -⟩
    have hsign : '=' ∉ face.text ++ ", size".toList := by
      rw [List.mem_append, not_or]
      exact ⟨face.not_mem (by decide), by decide⟩
    obtain ⟨m, -, hm⟩ := exists_of_append_eq_append_cons (v := ['='])
      (s := x ++ "size".toList ++ gap) (t := gap' ++ c :: t) hsign (by simpa [front] using htext)
    cases m <;> simp at hm

theorem isNamed_sizeKind (shape : SizeShape) : shape.sizeKind.IsNamed shape.callName := by
  cases shape with
  | only => exact SizeKind.isNamed_only
  | keyword => exact SizeKind.isNamed_keyword
  | last => exact SizeKind.isNamed_last
  | second => exact SizeKind.isNamed_second

/-- What the kind of the shape finds behind the point of a method call. -/
def call (shape : SizeShape) (size : List Char) : SizeCall where
  lead := shape.callName ++ ['('] ++ shape.front
  gap := []
  digits := size
  tail :=
    match shape with
    | last _ => [')']
    | _ => []

theorem knows_call (shape : SizeShape) (hd : IsNumeral d) :
    shape.sizeKind.Knows (shape.call d) := by
  have hspace : ∀ c ∈ [' '], isBlank c = true := by simp [isBlank]
  cases shape with
  | only =>
    change IsSizeOnly ⟨"set_font_size".toList ++ ['('] ++ [], [], d, []⟩
    rw [List.append_nil]
    exact .mk (isOpening_append _) (by simp) hd
  | keyword face => exact .mk (isOpening_append _) (isSizeFront_keyword face) hd
  | last face =>
    have hknows := IsSizeLast.mk (isOpening_append _) face.text_ne_nil face.isPositional hspace hd
      (List.forall_mem_nil _)
    change IsSizeLast ⟨"set_font".toList ++ ['('] ++ (face.text ++ ([','] ++ [' '])), [], d, [')']⟩
    simpa only [List.append_assoc, List.nil_append] using hknows
  | second face =>
    have hknows := IsSizeSecond.mk (isOpening_append _) face.text_ne_nil
      (face.not_mem (by decide)) hspace hd
    change IsSizeSecond ⟨"setFont".toList ++ ['('] ++ (face.text ++ ([','] ++ [' '])), [], d, []⟩
    simpa only [List.append_assoc] using hknows

/-- The method call in a script, up to its size and behind it. -/
theorem exists_call (shape : SizeShape) (post : List Char) :
    ∃ t, ((shape.call d).tail = [] → Halts t) ∧
      (∀ size, shape.callName ++ '(' :: (shape.front ++ size ++ ')' :: post) =
        (shape.call size).text ++ t) := by
  have hclose : Halts (')' :: post) := halts_cons.2 (by decide)
  cases shape with
  | last face => exact ⟨post, by simp [call], fun size => by simp [SizeCall.text, call]⟩
  | only | keyword face | second face =>
    exact ⟨')' :: post, fun _ => hclose, fun size => by simp [SizeCall.text, call]⟩

end SizeShape

/-! ## Whole numbers -/

/-- A text without the names of calls and without markers. -/
structure IsNeutral (s : List Char) : Prop where
  names : ∀ name ∈ callNames, ¬ name <:+: s
  markers : ¬ HoldsMarker s

theorem IsNeutral.isSilent (h : IsNeutral s) (hname : name ∈ callNames) : IsSilent name s :=
  isSilent_of_not_isInfix (h.names name hname)

theorem resizeFonts_eq_of_passes {n : Nat} {only keyword last second : List Char}
    (honly : resizeCalls sizeOnly (Nat.toDigits 10 n) s = only)
    (hkeyword : resizeCalls sizeKeyword (Nat.toDigits 10 n) only = keyword)
    (hlast : resizeCalls sizeLast (Nat.toDigits 10 n) keyword = last)
    (hsecond : resizeCalls sizeSecond (Nat.toDigits 10 n) last = second) :
    resizeFonts n s = second := by
  rw [resizeFonts, honly, hkeyword, hlast, hsecond]

section Script

variable (hpre : IsNeutral pre) (hpost : IsNeutral post) (shape : SizeShape)

theorem append_methodCall_append (pre post size : List Char) :
    pre ++ shape.methodCall size ++ post =
      oneCall pre shape.callName (shape.front ++ size) post := by
  simp [SizeShape.methodCall, oneCall]

include hpre hpost

theorem resizeCalls_sizeKind (hd : IsNumeral d) (size : List Char) :
    resizeCalls shape.sizeKind.find size (pre ++ shape.methodCall d ++ post) =
      pre ++ shape.methodCall size ++ post := by
  obtain ⟨t, ht, htext⟩ := shape.exists_call (d := d) post
  have hargs := shape.not_mem_front_append hd (c := '(') (by simp)
  rw [append_methodCall_append, resizeCalls_oneCall
    (hpre.isSilent shape.callName_mem) (hpost.isSilent shape.callName_mem) shape.isNamed_sizeKind
    shape.callName_mem hargs (shape.knows_call hd) (htext d) ht, append_methodCall_append, oneCall,
    htext size]
  simp [SizeCall.withSize, SizeCall.text, SizeShape.call]

/-- A pass over calls of another kind leaves the call. -/
theorem resizeCalls_eq_self {kind : SizeKind} (hkind : kind.IsNamed name) (hd : IsNumeral d)
    (hnone : kind.find (shape.callName ++ '(' :: (shape.front ++ d ++ ')' :: post)) = none)
    (size : List Char) :
    resizeCalls kind.find size (pre ++ shape.methodCall d ++ post) =
      pre ++ shape.methodCall d ++ post := by
  have hargs := shape.not_mem_front_append hd (c := '(') (by simp)
  rw [append_methodCall_append,
    resizeCalls_oneCall_eq_self (hpre.isSilent hkind.mem) (hpost.isSilent hkind.mem) hkind
      shape.callName_mem hargs hnone]

/-- A whole number gives way to the new size, and the rest of the script stays. -/
theorem resizeFonts_methodCall (hd : IsNumeral d) (n : Nat) :
    resizeFonts n (pre ++ shape.methodCall d ++ post) =
      pre ++ shape.methodCall (Nat.toDigits 10 n) ++ post := by
  have hsize := isNumeral_toDigits n
  have own := resizeCalls_sizeKind hpre hpost shape hd (Nat.toDigits 10 n)
  have others : ∀ {kind : SizeKind} {name d : List Char}, kind.IsNamed name →
      name ≠ shape.callName → IsNumeral d →
      resizeCalls kind.find (Nat.toDigits 10 n) (pre ++ shape.methodCall d ++ post) =
        pre ++ shape.methodCall d ++ post := fun hkind hne hd =>
    resizeCalls_eq_self hpre hpost shape hkind hd
      (hkind.find_eq_none_of_ne shape.callName_mem hne _) _
  have names : "set_font".toList ≠ "set_font_size".toList ∧
      "setFont".toList ≠ "set_font_size".toList ∧ "setFont".toList ≠ "set_font".toList := by decide
  obtain ⟨hfont, hsetFont, hsetFont'⟩ := names
  cases shape with
  | only =>
    exact resizeFonts_eq_of_passes own (others SizeKind.isNamed_keyword hfont hsize)
      (others SizeKind.isNamed_last hfont hsize) (others SizeKind.isNamed_second hsetFont hsize)
  | keyword face =>
    have hsign : '=' ∈ (SizeShape.keyword face).front ++ Nat.toDigits 10 n := by
      simp [SizeShape.front]
    have hlast := find_last_eq_none hsign (SizeShape.not_mem_front_append _ hsize (by simp)) post
    exact resizeFonts_eq_of_passes (others SizeKind.isNamed_only hfont.symm hd) own
      (resizeCalls_eq_self hpre hpost (.keyword face) SizeKind.isNamed_last hsize hlast _)
      (others SizeKind.isNamed_second hsetFont' hsize)
  | last face =>
    have hsign : '=' ∉ (SizeShape.last face).front ++ d := by
      simp only [SizeShape.front, List.mem_append, not_or]
      exact ⟨⟨face.not_mem (by simp), by decide⟩, hd.not_mem (by decide)⟩
    have hkeyword := find_keyword_eq_none hsign post
    exact resizeFonts_eq_of_passes (others SizeKind.isNamed_only hfont.symm hd)
      (resizeCalls_eq_self hpre hpost (.last face) SizeKind.isNamed_keyword hd hkeyword _) own
      (others SizeKind.isNamed_second hsetFont' hsize)
  | second face =>
    exact resizeFonts_eq_of_passes (others SizeKind.isNamed_only hsetFont.symm hd)
      (others SizeKind.isNamed_keyword hsetFont'.symm hd)
      (others SizeKind.isNamed_last hsetFont'.symm hd) own

end Script

/-! ## Decimal literals -/

/-- A decimal literal: digits, and behind a point a fraction. -/
structure Decimal where
  whole : List Char
  fraction : Option (List Char)
  isNumeral_whole : IsNumeral whole
  isNumeral_fraction : ∀ d ∈ fraction, IsNumeral d

def Decimal.text (literal : Decimal) : List Char :=
  match literal.fraction with
  | none => literal.whole
  | some d => literal.whole ++ '.' :: d

theorem Decimal.isOpener_text (literal : Decimal) : ∀ c ∈ literal.text, isOpener c = false := by
  have hwhole := literal.isNumeral_whole.isOpener_eq_false
  cases hfraction : literal.fraction with
  | none => simpa [text, hfraction] using hwhole
  | some d =>
    have hpart := (literal.isNumeral_fraction d hfraction).isOpener_eq_false
    intro c hc
    rw [text, hfraction, List.mem_append, List.mem_cons] at hc
    rcases hc with hc | rfl | hc
    · exact hwhole c hc
    · decide
    · exact hpart c hc

/-- White space at the ends is all that trimming drops. -/
theorem bare_trim (s : List Char) : bare (trim s) = bare s := by
  have hstart : bare (trimStart s) = bare s := by
    conv_rhs => rw [← takeWhile_append_trimStart s, bare_append,
      bare_eq_nil fun c hc => .inl (List.mem_takeWhile_imp hc), List.nil_append]
  rw [trim, ← hstart]
  conv_rhs => rw [← trimEnd_append_takeEndWhile (trimStart s), bare_append,
    bare_eq_nil fun c hc => .inl (eq_true_of_mem_takeEndWhile hc), List.append_nil]

theorem not_holdsMarker (h : ∀ c ∈ s, isOpener c = false) : ¬ HoldsMarker s := by
  rw [← List.append_nil s, holdsMarker_append_left h]
  exact not_holdsMarker_nil

section Literal

variable (shape : SizeShape)

theorem bare_methodCall (pre post size : List Char) :
    bare (pre ++ shape.methodCall size ++ post) =
      bare (pre ++ '.' :: (shape.callName ++ '(' :: shape.front)) ++ bare size ++
        bare (')' :: post) := by
  rw [← bare_append, ← bare_append]
  simp [SizeShape.methodCall]

theorem not_holdsMarker_methodCall (hpre : IsNeutral pre) (hpost : IsNeutral post)
    (hsize : ∀ c ∈ size, isOpener c = false) :
    ¬ HoldsMarker (pre ++ shape.methodCall size ++ post) := by
  have letters : ∀ name ∈ callNames, ∀ c ∈ name, isOpener c = false := by
    simp [callNames, isOpener]
  have hname := letters _ shape.callName_mem
  have hargs : ∀ c ∈ shape.front ++ size, isOpener c = false := by
    intro c hc
    rcases List.mem_append.1 hc with hc | hc
    · rw [Bool.eq_false_iff]
      intro hopener
      have hmem : c ∈ ['(', ')', '`', '['] := by
        have hmarker : c = '`' ∨ c = '[' := by simpa [isOpener] using hopener
        rcases hmarker with rfl | rfl <;> decide
      exact shape.not_mem_front hmem hc
    · exact hsize c hc
  rw [append_methodCall_append, oneCall, holdsMarker_append_cons (by simp),
    holdsMarker_append_cons (by simp), holdsMarker_append_cons (by simp)]
  simp [hpre.markers, hpost.markers, not_holdsMarker hname, not_holdsMarker hargs]

/-- A call takes the new size in place of its literal exactly if the literal is a whole number; the
surrounding script stays, but for white space at its ends. -/
theorem clean_methodCall_iff (hpre : IsNeutral pre) (hpost : IsNeutral post) (literal : Decimal)
    {n : Nat} (hn : 0 < n) :
    clean (pre ++ shape.methodCall literal.text ++ post) (some n) =
        trim (pre ++ shape.methodCall (Nat.toDigits 10 n) ++ post) ↔
      literal.fraction = none := by
  have hmarker := not_holdsMarker_methodCall shape hpre hpost literal.isOpener_text
  have hstrip := ((stripMarkers_cases _).resolve_right fun h => hmarker h.1).2
  have hclean : clean (pre ++ shape.methodCall literal.text ++ post) (some n) =
      trim (resizeFonts n (pre ++ shape.methodCall literal.text ++ post)) := by
    obtain ⟨n, rfl⟩ := Nat.exists_eq_succ_of_ne_zero hn.ne'
    rw [clean_eq_finish, hstrip]
    rfl
  rw [hclean]
  constructor
  · intro h
    -- No character but digits and white space changes, so the point of a fraction stays.
    have hbare := congrArg bare h
    rw [bare_trim, bare_trim, bare_resizeFonts, bare_methodCall, bare_methodCall,
      (isNumeral_toDigits n).bare_eq_nil, List.append_cancel_right_eq,
      List.append_cancel_left_eq] at hbare
    cases hfraction : literal.fraction with
    | none => rfl
    | some d =>
      have hpoint : '.' ∈ bare literal.text := by
        simp [bare, Decimal.text, hfraction, isDigit, isBlank]
      simp [hbare] at hpoint
  · intro hnone
    have htext : literal.text = literal.whole := by rw [Decimal.text, hnone]
    rw [htext, resizeFonts_methodCall hpre hpost shape literal.isNumeral_whole]

theorem clean_whole_number :
    IsNeutral "pdf".toList ∧ IsNeutral [] ∧ 0 < 14 ∧
      clean "pdf.set_font('Arial', 12)".toList (some 14) =
        "pdf.set_font('Arial', 14)".toList := by
  have hpre : IsNeutral "pdf".toList := ⟨by decide, not_holdsMarker (by simp [isOpener])⟩
  have hpost : IsNeutral [] := ⟨by decide, not_holdsMarker_nil⟩
  let face : Face :=
    ⟨'\'', "Arial".toList, rfl, fun c hc => .inl (List.all_eq_true.1 (by decide) c hc)⟩
  let literal : Decimal := ⟨"12".toList, none, ⟨by decide, by simp [isDigit]⟩, by simp⟩
  have htext : "pdf.set_font('Arial', 12)".toList =
      "pdf".toList ++ (SizeShape.last face).methodCall literal.text ++ [] := by decide +kernel
  refine ⟨hpre, hpost, by decide, ?_⟩
  rw [htext, (clean_methodCall_iff (.last face) hpre hpost literal (by decide)).2 rfl]
  decide +kernel

/-- The fraction of a literal stays behind the new size, or the literal stays as it is. -/
theorem fraction_left :
    clean "pdf.set_font_size(12.5)".toList (some 14) ≠ "pdf.set_font_size(14)".toList ∧
      clean "pdf.set_font_size(12.5)".toList (some 14) = "pdf.set_font_size(14.5)".toList ∧
      clean "pdf.set_font('Arial', 12.5)".toList (some 14) =
        "pdf.set_font('Arial', 12.5)".toList := by
  decide +kernel

end Literal

end ScriptPress.Source
