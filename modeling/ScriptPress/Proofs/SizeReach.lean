import Mathlib.Data.List.Infix
import ScriptPress.Proofs.Respacing
import ScriptPress.Proofs.SizeMark

/-!
# How far a size reaches

Which numbers of a script another size can change. Three of the four kinds find their size inside
the parentheses of the call. The fourth looks for the first comma behind `setFont(`, and nothing
keeps it in front of the closing parenthesis: where the call has one argument only, the first comma
stands in a later call, and the number behind it is changed.

## Main definitions

* `Matching` — a way to tell the parenthesis that closes a call.
* `InArguments` — the place is one in the arguments of a call that chooses a font size.
* `IsAdrift` — the first comma behind `setFont(` stands in front of the place, and the call is
  closed by then.

## Main statements

* `Marks.exists_call` — a marked number is the size of a call.
* `Settled.eq_of_isSecond` — the number behind the first comma is the size of a call.
* `getElem?_numerals_resizeFonts` — what can become of a number.
* `resizeFonts_inside_iff` — which scripts keep every number outside the arguments of a call.
-/

namespace ScriptPress.Source

open Text

variable {kind : SizeKind} {size s t u v x name front front' args args' d d' e behind : List Char}
  {c : Char} {afterWord : Bool} {marks : List Bool}

/-! ## Words -/

/-- Whether a word character ends the text, where `afterWord` says that one stands in front. -/
def endsInWord (afterWord : Bool) (s : List Char) : Bool := s.foldl (fun _ c => isWord c) afterWord

theorem endsInWord_append (afterWord : Bool) (s t : List Char) :
    endsInWord afterWord (s ++ t) = endsInWord (endsInWord afterWord s) t := List.foldl_append

theorem endsInWord_of_mem_getLast? (h : c ∈ s.getLast?) (afterWord : Bool) :
    endsInWord afterWord s = isWord c := by
  obtain ⟨s, rfl⟩ := List.getLast?_eq_some_iff.1 h
  rw [endsInWord_append]
  rfl

theorem IsNumeral.endsInWord (h : IsNumeral d) (afterWord : Bool) :
    endsInWord afterWord d = true := by
  have hdigit := h.digits _ (List.getLast_mem h.ne_nil)
  rw [endsInWord_of_mem_getLast? (List.getLast?_eq_some_getLast h.ne_nil),
    isWord_of_isDigit hdigit]

theorem SizeCall.IsSound.endsInWord_text {call : SizeCall} (h : call.IsSound) (afterWord : Bool) :
    endsInWord afterWord call.text = call.tail.isEmpty := by
  obtain ⟨c, hc, -, hword⟩ := h.getLast?_text
  rw [endsInWord_of_mem_getLast? hc, hword]

/-- A digit ends a numeral, whatever stands in front of it. -/
theorem Respaced.endsInWord_eq (h : Respaced s t) (afterWord : Bool) :
    endsInWord afterWord s = endsInWord afterWord t := by
  induction h generalizing afterWord with
  | nil => rfl
  | char _ _ ih => exact ih _
  | numeral _ hd hd' _ _ _ ih =>
    rw [endsInWord_append, endsInWord_append, hd.endsInWord, endsInWord_append, endsInWord_append,
      hd'.endsInWord, ih]

/-! ## Marked numbers -/

/-- The size of a call among the numerals of a text. -/
theorem SizeCall.IsSound.numberAt {call : SizeCall} (h : call.IsSound)
    (ht : call.tail = [] → Halts t) :
    NumberAt (call.text ++ t) (call.lead ++ call.gap) call.digits (call.tail ++ t) where
  text := by simp [SizeCall.text]
  numeral := h.digits
  begins := by
    intro c hc
    rcases List.eq_nil_or_concat call.gap with hgap | ⟨gap, e, hgap⟩
    · rw [hgap, List.append_nil] at hc
      exact h.isDigit_getLast? c hc
    · obtain rfl : e = c := by simpa [hgap] using hc
      exact isDigit_of_isBlank (h.gap e (by simp [hgap]))
  halts := h.halts_tail ht

theorem numerals_append_of_isBlank (h : ∀ c ∈ t, isBlank c = true) :
    numerals (s ++ t) = numerals s := by
  rw [numerals_append (.inr (halts_of_isBlank h)),
    numerals_eq_nil fun c hc => isDigit_of_isBlank (h c hc), List.append_nil]

/-- A numeral behind the size of a call stands behind the call. -/
theorem SizeCall.IsSound.exists_of_tail_append {call : SizeCall} {m : List Char}
    (h : call.IsSound) (hd : IsNumeral d) (htext : call.tail ++ t = m ++ d ++ behind) :
    ∃ m', m = call.tail ++ m' ∧ t = m' ++ d ++ behind := by
  obtain ⟨e, d, rfl⟩ := List.exists_cons_of_ne_nil hd.ne_nil
  have he : e ∉ call.tail := fun hmem => by
    simpa [h.tail_isDigit e hmem] using hd.digits e
  have hparts : call.tail ++ t = m ++ e :: (d ++ behind) := by simpa using htext
  obtain ⟨m', rfl, rfl⟩ := exists_of_append_eq_append_cons he hparts
  exact ⟨m', rfl, by simp⟩

/-- A number of a text that begins with a call is the size of the call, or it stands behind the call
or in front of the size. -/
theorem SizeCall.IsSound.number_cases {call : SizeCall} (h : call.IsSound)
    (ht : call.tail = [] → Halts t) (hat : NumberAt (call.text ++ t) front d behind) :
    front = call.lead ++ call.gap ∨
      (∃ m, front = call.text ++ m ∧ (call.tail = [] → Halts m) ∧ NumberAt t m d behind) ∨
      ∃ m, NumberAt (call.lead ++ call.gap) front d m := by
  rcases hat.trichotomy (h.numberAt ht) with hsize | ⟨m, rfl, hm⟩ | ⟨m, hm, rfl⟩
  · exact .inl hsize
  · obtain ⟨m, rfl, rfl⟩ := h.exists_of_tail_append hat.numeral hm
    have htext : call.lead ++ call.gap ++ call.digits ++ (call.tail ++ m) = call.text ++ m := by
      simp [SizeCall.text]
    rw [htext] at hat ⊢
    exact .inr (.inl ⟨m, rfl, fun hnil => (ht hnil).of_append.of_append, hat.of_append_left⟩)
  · exact .inr (.inr ⟨m, hm, hat.numeral, hat.begins, hat.halts.of_append.of_append⟩)

/-- A number of a text that begins with a numeral is that numeral or stands behind it. -/
theorem IsNumeral.number_cases {digits : List Char} (h : IsNumeral digits) (ht : Halts t)
    (hat : NumberAt (digits ++ t) front d behind) :
    front = [] ∨ ∃ m, front = digits ++ m ∧ Halts m ∧ NumberAt t m d behind := by
  have hfirst : NumberAt (digits ++ t) [] digits t := ⟨rfl, h, by simp, ht⟩
  rcases hat.trichotomy hfirst with hnil | ⟨m, rfl, rfl⟩ | ⟨m, hm, -⟩
  · exact .inl hnil
  · exact .inr ⟨m, rfl, ht.of_append.of_append, hat.of_append_left⟩
  · simp [hat.numeral.ne_nil] at hm

/-- A number that is marked is the size of a call whose name begins a word. -/
theorem Marks.exists_call (h : Marks kind afterWord s marks) (hat : NumberAt s front d behind)
    (hmark : marks[(numerals front).length]? = some true) :
    ∃ x call, kind.Knows call ∧ front = x ++ call.lead ++ call.gap ∧
      endsInWord afterWord x = false := by
  induction h generalizing front with
  | nil =>
    have hnil := hat.text
    simp [hat.numeral.ne_nil] at hnil
  | @call call t marks hknows ht _ ih =>
    have hsound := kind.sound hknows
    rcases hsound.number_cases ht hat with rfl | ⟨m, rfl, hm, hat'⟩ | ⟨m, hlead⟩
    · exact ⟨[], call, hknows, rfl, rfl⟩
    · rw [hsound.numerals_text hm] at hmark
      obtain ⟨x, call', hknows', rfl, hx⟩ := ih hat'
        (by simpa [List.getElem?_append_right] using hmark)
      refine ⟨call.text ++ x, call', hknows', by simp, ?_⟩
      rwa [endsInWord_append, hsound.endsInWord_text]
    · have hsome := hlead.getElem?_numerals
      rw [numerals_append_of_isBlank hsound.gap] at hsome
      obtain ⟨hlt, -⟩ := List.getElem?_eq_some_iff.1 hsome
      simp [List.getElem?_append_left, hlt] at hmark
  | @numeral afterWord digits t marks hdigits ht _ ih =>
    rcases hdigits.number_cases ht hat with rfl | ⟨m, rfl, hm, hat'⟩
    · simp at hmark
    · rw [numerals_numeral hdigits hm] at hmark
      obtain ⟨x, call, hknows, rfl, hx⟩ := ih hat' (by simpa using hmark)
      refine ⟨digits ++ x, call, hknows, by simp, ?_⟩
      rwa [endsInWord_append, hdigits.endsInWord]
  | @char afterWord c t marks hc hfind _ ih =>
    obtain ⟨front, rfl, rfl⟩ := hat.exists_of_cons hc
    rw [numerals_char hc] at hmark
    obtain ⟨x, call, hknows, rfl, hx⟩ := ih (hat.of_append_left (u := [c])) hmark
    exact ⟨c :: x, call, hknows, rfl, hx⟩

/-! ## Places in a script -/

/-- A way to tell the parenthesis that closes a call: whether it stands in a text behind the opening
one. -/
structure Matching where
  closes : List Char → Prop
  mem_of_closes : ∀ {s}, closes s → ')' ∈ s

namespace Matching

/-- The first parenthesis that closes more than was opened. -/
def counted : Matching where
  closes s := ∃ t, t <+: s ∧ t.count '(' < t.count ')'
  mem_of_closes := by
    rintro s ⟨t, ht, hcount⟩
    exact ht.subset (List.count_pos_iff.1 (by omega))

def first : Matching where
  closes s := ')' ∈ s
  mem_of_closes := id

end Matching

def callNames : List (List Char) :=
  ["set_font_size".toList, "set_font".toList, "setFont".toList]

/-- A call is opened in the text, and what stands behind its opening parenthesis. -/
def Opened (name front args : List Char) : Prop :=
  ∃ x lead, front = x ++ lead ++ args ∧ endsInWord false x = false ∧ IsOpening name lead

/-- What stands behind the text is one of the arguments of a call that chooses a font size. A call
that is not closed has the rest of the script for its arguments. -/
def InArguments (m : Matching) (front : List Char) : Prop :=
  ∃ name ∈ callNames, ∃ args, Opened name front args ∧ ¬ m.closes args

/-- What stands behind the text begins the second of the arguments, where they are cut at commas
wherever these stand. -/
def IsSecond (args : List Char) : Prop :=
  ∃ face gap, args = face ++ [','] ++ gap ∧ face ≠ [] ∧ ',' ∉ face ∧ ∀ c ∈ gap, isBlank c = true

/-- The first comma behind `setFont(` stands in front of what stands behind the text. -/
def IsSecondArgument (front : List Char) : Prop :=
  ∃ args, Opened "setFont".toList front args ∧ IsSecond args

/-- The first comma behind `setFont(` stands in front, but the call is closed by then. -/
def IsAdrift (m : Matching) (front : List Char) : Prop :=
  ∃ args, Opened "setFont".toList front args ∧ IsSecond args ∧ m.closes args

instance : DecidablePred Matching.counted.closes := fun s =>
  decidable_of_iff (∃ t ∈ s.inits, t.count '(' < t.count ')') <| by
    simp [Matching.counted, List.mem_inits]

theorem inArguments_iff {m : Matching} : InArguments m front ↔
    ∃ u ∈ front.tails, endsInWord false (front.take (front.length - u.length)) = false ∧
      ∃ name ∈ callNames, ∃ call ∈ callOf? name u, ¬ m.closes call.2 := by
  constructor
  · rintro ⟨name, hname, args, ⟨x, lead, rfl, hx, hlead⟩, hclose⟩
    refine ⟨lead ++ args, ?_, ?_, name, hname, (lead, args), ?_, hclose⟩
    · rw [List.mem_tails, List.append_assoc]
      exact List.suffix_append x _
    · simpa using hx
    · exact callOf?_eq_some_iff.2 ⟨hlead, rfl⟩
  · rintro ⟨u, hu, hx, name, hname, ⟨lead, args⟩, hcall, hclose⟩
    obtain ⟨x, rfl⟩ := (List.mem_tails ..).1 hu
    obtain ⟨hlead, rfl⟩ := callOf?_eq_some_iff.1 hcall
    exact ⟨name, hname, args, ⟨x, lead, by simp, by simpa using hx, hlead⟩, hclose⟩

instance {m : Matching} [DecidablePred m.closes] : Decidable (InArguments m front) :=
  decidable_of_iff _ inArguments_iff.symm

theorem InArguments.of_first (h : InArguments .first front) (m : Matching) :
    InArguments m front := by
  obtain ⟨name, hname, args, hopened, hclose⟩ := h
  exact ⟨name, hname, args, hopened, mt m.mem_of_closes hclose⟩

/-! ## Places in a respaced script -/

theorem isDigit_of_mem_callNames (h : name ∈ callNames) :
    ∀ c ∈ name, isDigit c = false ∧ c ≠ '(' :=
  (by simp [callNames, isDigit] :
    ∀ name ∈ callNames, ∀ c ∈ name, isDigit c = false ∧ c ≠ '(') name h

theorem head?_of_mem_callNames (h : name ∈ callNames) : name.head? = some 's' :=
  (by decide : ∀ name ∈ callNames, name.head? = some 's') name h

theorem forall_mem_append_of_isBlank (hw : ∀ c ∈ u, isDigit c = false ∧ c ≠ '(')
    (hgap : ∀ c ∈ v, isBlank c = true) : ∀ c ∈ u ++ v, isDigit c = false ∧ c ≠ '(' := by
  intro c hc
  rcases List.mem_append.1 hc with hc | hc
  · exact hw c hc
  · refine ⟨isDigit_of_isBlank (hgap c hc), ?_⟩
    rintro rfl
    exact absurd (hgap _ hc) (by decide)

/-- A call that is opened in front of a numeral is opened in front of it in every respaced text. -/
theorem Opened.exists_of_respaced (h : Opened name front args) (hname : name ∈ callNames)
    (hd' : IsNumeral d') (hfront : Respaced (front ++ d) (front' ++ d')) :
    ∃ args', Opened name front' args' ∧ Respaced ('(' :: (args ++ d)) ('(' :: (args' ++ d')) := by
  obtain ⟨x, _, rfl, hx, @⟨gap, hgap⟩⟩ := h
  have hlead := forall_mem_append_of_isBlank (isDigit_of_mem_callNames hname) hgap
  obtain ⟨name, rfl⟩ := List.head?_eq_some_iff.1 (head?_of_mem_callNames hname)
  have hfront' : x ++ ('s' :: name ++ gap ++ ['(']) ++ args ++ d =
      x ++ 's' :: (name ++ gap ++ '(' :: (args ++ d)) := by simp
  obtain ⟨x', u, hu, hrespaced, hcall⟩ :=
    hfront.exists_of_append_cons hfront' (by decide) (by decide)
  obtain ⟨v, hv, hrest⟩ := hcall.exists_of_append_left
    (w := 's' :: name ++ gap) (s := '(' :: (args ++ d)) (by simp) hlead
  obtain ⟨rest, rfl⟩ := hrest.exists_of_cons (by decide) (by decide)
  have htext : (x' ++ ('s' :: name ++ gap)) ++ '(' :: rest = front' ++ d' := by
    rw [hu, hv]
    simp
  obtain ⟨args', rfl, rfl⟩ := exists_of_append_cons_eq_append (hd'.not_mem (by decide)) htext
  refine ⟨args', ⟨x', 's' :: name ++ gap ++ ['('], by simp, ?_, .mk hgap⟩, hrest⟩
  rw [← hrespaced.endsInWord_eq, hx]

theorem InArguments.of_respaced (h : InArguments .first front) (hd : IsNumeral d)
    (hd' : IsNumeral d') (hfront : Respaced (front ++ d) (front' ++ d')) :
    InArguments .first front' := by
  obtain ⟨name, hname, args, hopened, hclose⟩ := h
  obtain ⟨args', hopened', hargs⟩ := hopened.exists_of_respaced hname hd' hfront
  refine ⟨name, hname, args', hopened', ?_⟩
  have hmem := hargs.mem_iff (c := ')') (by decide) (by decide)
  simp only [List.mem_cons, List.mem_append, hd.not_mem (c := ')') (by decide),
    hd'.not_mem (c := ')') (by decide), or_false] at hmem
  exact fun hclose' => hclose ((hmem.2 (.inr hclose')).resolve_left (by decide))

/-- A second argument stays one where white space goes and numerals change. -/
theorem IsSecond.of_respaced (h : IsSecond args) (hd : IsNumeral d) (hd' : IsNumeral d')
    (hargs : Respaced ('(' :: (args ++ d)) ('(' :: (args' ++ d')))
    (hlast : ∀ c ∈ args'.getLast?, isDigit c = false) : IsSecond args' := by
  obtain ⟨face, gap, rfl, hface, hcomma, hgap⟩ := h
  have hcut : '(' :: (face ++ [','] ++ gap ++ d) = ('(' :: face) ++ ',' :: (gap ++ d) := by simp
  obtain ⟨t, u, htext, ht, hu⟩ := hargs.exists_of_append_cons hcut (by decide) (by decide)
  obtain ⟨face', rfl⟩ := ht.exists_of_cons (by decide) (by decide)
  obtain ⟨e, he, hrest⟩ := hu.exists_of_append_left (w := [','] ++ gap) (s := d) rfl
    (forall_mem_append_of_isBlank (by simp [isDigit]) hgap)
  have htext' : args' ++ d' = (face' ++ [','] ++ gap) ++ e := by
    rw [he] at htext
    simpa using htext
  have hlast' : ∀ c ∈ (face' ++ [','] ++ gap).getLast?, isDigit c = false := by
    intro c hc
    rw [List.append_assoc, List.getLast?_append_of_ne_nil _ (by simp)] at hc
    exact isDigit_of_mem_comma_append hgap c (List.mem_of_getLast? hc)
  obtain ⟨rfl, -⟩ := append_numeral_inj hd' (hrest.isNumeral hd) hlast hlast' htext'
  refine ⟨face', gap, rfl, ht.ne_nil_of_cons (by decide) hface, ?_, hgap⟩
  have hmem := ht.mem_iff (c := ',') (by decide) (by decide)
  simpa [hcomma] using hmem

/-! ## Numbers behind the first comma -/

theorem IsOpening.not_mem {lead : List Char} (h : IsOpening name lead) (hname : c ∉ name)
    (hblank : isBlank c = false) (hopen : c ≠ '(') : c ∉ lead := by
  cases h with
  | mk hgap => simp [hname, hopen, not_mem_of_isBlank hgap hblank]

theorem IsOpening.exists_eq_cons {lead : List Char} (h : IsOpening name lead)
    (hname : name.head? = some c) : ∃ l, lead = c :: l := by
  refine List.head?_eq_some_iff.1 ((h.head? ?_).trans hname)
  rintro rfl
  simp at hname

/-- Behind the size of a call, the comma in front of a number is another one than that of the
call, so the opening in front of that comma stands behind the call. -/
theorem IsSizeSecond.exists_of_text_append {call : SizeCall} {lead m : List Char}
    (h : IsSizeSecond call) (hlead : IsOpening "setFont".toList lead) (hargs : IsSecond args)
    (htext : x ++ lead ++ args = call.text ++ m) : ∃ x', x = call.text ++ x' := by
  obtain @⟨lead₀, face₀, gap₀, digits, hlead₀, -, hcomma₀, hgap₀, hdigits⟩ := h
  obtain ⟨face, gap, rfl, -, hcomma, hgap⟩ := hargs
  obtain ⟨ds, e, rfl⟩ := List.eq_nil_or_concat digits |>.resolve_left hdigits.ne_nil
  have he := hdigits.digits e (by simp)
  have hbehind : e ∉ ',' :: gap := by
    intro hmem
    simp [isDigit_of_mem_comma_append hgap e hmem] at he
  obtain ⟨u, hu, rfl⟩ := exists_of_append_cons_eq_append (c := e) (v := ',' :: gap)
    (s := lead₀ ++ face₀ ++ [','] ++ gap₀ ++ ds) (t := m) (u := x ++ lead ++ face) hbehind
    (by simpa [SizeCall.text] using htext.symm)
  have hfront : ',' ∉ lead ++ face := by
    simp [hcomma, hlead.not_mem (c := ',') (by decide) (by decide) (by decide)]
  obtain ⟨v, rfl, hv⟩ := exists_of_append_cons_eq_append (c := ',') (v := lead ++ face)
    (s := lead₀ ++ face₀) (t := gap₀ ++ ds ++ e :: u) (u := x) hfront (by simpa using hu.symm)
  have hsize : 's' ∉ gap₀ ++ (ds ++ [e]) := by
    rw [List.mem_append, not_or]
    exact ⟨not_mem_of_isBlank hgap₀ (by decide),
      by simpa using hdigits.not_mem (c := 's') (by decide)⟩
  obtain ⟨lead, rfl⟩ := hlead.exists_eq_cons (c := 's') rfl
  obtain ⟨x', rfl, -⟩ := exists_of_append_eq_append_cons (c := 's') (v := u) (s := v)
    (t := lead ++ face) hsize (by simpa using hv)
  exact ⟨x', by simp [SizeCall.text]⟩

/-- No number stands behind the first comma within the beginning of a call. -/
theorem IsSizeSecond.ne_of_isSecond {call : SizeCall} {lead m : List Char} (h : IsSizeSecond call)
    (hargs : IsSecond args) (hd : IsNumeral d) : call.lead ≠ x ++ lead ++ args ++ d ++ m := by
  obtain @⟨lead₀, face₀, gap₀, digits, hlead₀, -, hcomma₀, hgap₀, hdigits⟩ := h
  obtain ⟨face, gap, rfl, -, hcomma, hgap⟩ := hargs
  obtain ⟨e, d, rfl⟩ := List.exists_cons_of_ne_nil hd.ne_nil
  intro htext
  have he : e ∉ [','] ++ gap₀ := fun hmem => by
    simpa [isDigit_of_mem_comma_append hgap₀ e hmem] using hd.digits e
  obtain ⟨u, hu, -⟩ := exists_of_append_cons_eq_append (c := e) (v := [','] ++ gap₀)
    (s := x ++ lead ++ face ++ [','] ++ gap) (t := d ++ m) (u := lead₀ ++ face₀) he
    (by simpa using htext.symm)
  have hfront : ',' ∉ lead₀ ++ face₀ := by
    simp [hcomma₀, hlead₀.not_mem (c := ',') (by decide) (by decide) (by decide)]
  exact hfront (by simp [hu])

/-- Where every call of the fourth kind has the size, so has every number behind the first comma. -/
theorem Settled.eq_of_isSecond {lead : List Char} (h : Settled .second size afterWord s)
    (hat : NumberAt s front d behind) (hfront : front = x ++ lead ++ args)
    (hx : endsInWord afterWord x = false) (hlead : IsOpening "setFont".toList lead)
    (hargs : IsSecond args) : d = size := by
  obtain ⟨l, hl⟩ := hlead.exists_eq_cons (c := 's') rfl
  induction h generalizing front x with
  | nil =>
    have hnil := hat.text
    simp [hat.numeral.ne_nil] at hnil
  | @call call t hknows ht hcall _ ih =>
    have hsound := SizeKind.second.sound hknows
    rcases hsound.number_cases ht hat with rfl | ⟨m, rfl, -, hat'⟩ | ⟨m, hat'⟩
    · rw [(hat.eq_of_front (hsound.numberAt ht)).1, hcall.2]
    · obtain ⟨x', rfl⟩ := hknows.exists_of_text_append hlead hargs hfront.symm
      rw [endsInWord_append, hsound.endsInWord_text] at hx
      exact ih hat' (by simpa using hfront) hx
    · have hbegin := hat'.text
      rw [hcall.1, List.append_nil, hfront] at hbegin
      exact absurd hbegin (hknows.ne_of_isSecond hargs hat.numeral)
  | @numeral afterWord digits t hdigits ht _ ih =>
    rcases hdigits.number_cases ht hat with rfl | ⟨m, rfl, -, hat'⟩
    · simp [hl] at hfront
    · obtain ⟨x', rfl, -⟩ := exists_of_append_eq_append_cons (c := 's') (v := m) (s := x)
        (t := l ++ args) (hdigits.not_mem (by decide)) (by simpa [hl] using hfront)
      rw [endsInWord_append, hdigits.endsInWord] at hx
      exact ih hat' (by simpa using hfront) hx
  | @char afterWord c t hc hfind _ ih =>
    cases x with
    | nil =>
      obtain ⟨face, gap, rfl, hface, hcomma, hgap⟩ := hargs
      have hknows : SizeKind.second.Knows ⟨lead ++ face ++ [','] ++ gap, [], d, []⟩ :=
        .mk hlead hface hcomma hgap hat.numeral
      refine absurd ?_ (SizeKind.find_eq_none_iff.1 (hfind hx) _ behind hknows fun _ => hat.halts)
      rw [hat.text, hfront]
      simp [SizeCall.text]
    | cons e x =>
      obtain ⟨front, rfl, rfl⟩ := hat.exists_of_cons hc
      obtain ⟨rfl, rfl⟩ := List.cons.inj hfront
      exact ih (hat.of_append_left (u := [c])) rfl hx

/-! ## What a size reaches -/

theorem IsSizeOnly.inArguments {call : SizeCall} (h : IsSizeOnly call)
    (hx : endsInWord false x = false) : InArguments .first (x ++ call.lead ++ call.gap) := by
  obtain @⟨lead, gap, digits, hlead, hgap, -⟩ := h
  exact ⟨_, by simp [callNames], gap, ⟨x, lead, rfl, hx, hlead⟩,
    not_mem_of_isBlank hgap (by decide)⟩

theorem IsSizeKeyword.inArguments {call : SizeCall} (h : IsSizeKeyword call)
    (hx : endsInWord false x = false) : InArguments .first (x ++ call.lead ++ call.gap) := by
  obtain @⟨lead, args, digits, hlead, hargs, -⟩ := h
  exact ⟨_, by simp [callNames], args, ⟨x, lead, by simp, hx, hlead⟩, hargs.not_mem⟩

theorem IsSizeLast.inArguments {call : SizeCall} (h : IsSizeLast call)
    (hx : endsInWord false x = false) : InArguments .first (x ++ call.lead ++ call.gap) := by
  obtain @⟨lead, args, gap, digits, behind, hlead, -, hplain, hgap, -⟩ := h
  refine ⟨_, by simp [callNames], args ++ [','] ++ gap, ⟨x, lead, by simp, hx, hlead⟩, ?_⟩
  have hclose : ')' ∉ args := fun hmem => absurd (hplain _ hmem) (by decide)
  simpa [Matching.first, hclose] using not_mem_of_isBlank hgap (by decide)

theorem IsSizeSecond.isSecond {call : SizeCall} (h : IsSizeSecond call)
    (hx : endsInWord false x = false) : IsSecondArgument (x ++ call.lead ++ call.gap) := by
  obtain @⟨lead, face, gap, digits, hlead, hface, hcomma, hgap, -⟩ := h
  exact ⟨face ++ [','] ++ gap, ⟨x, lead, by simp, hx, hlead⟩, face, gap, rfl, hface, hcomma, hgap⟩

theorem IsSecondArgument.of_respaced (h : IsSecondArgument front) (hd : IsNumeral d)
    (hat : NumberAt t front' d' behind) (hfront : Respaced (front ++ d) (front' ++ d')) :
    IsSecondArgument front' := by
  obtain ⟨args, hopened, hargs⟩ := h
  obtain ⟨args', hopened', hrespaced⟩ :=
    hopened.exists_of_respaced (by simp [callNames]) hat.numeral hfront
  refine ⟨args', hopened', hargs.of_respaced hd hat.numeral hrespaced fun c hc => ?_⟩
  obtain ⟨x, lead, rfl, -⟩ := hopened'
  exact hat.begins c (List.mem_getLast?_append_of_mem_getLast? hc)

/-- A number keeps its digits, or it takes the size in the arguments of a call or behind the first
comma. -/
theorem getElem?_numerals_resizeFonts (n : Nat) (hat : NumberAt s front d behind) :
    (numerals (resizeFonts n s))[(numerals front).length]? = some d ∨
      (numerals (resizeFonts n s))[(numerals front).length]? = some (Nat.toDigits 10 n) ∧
        (InArguments .first front ∨ IsSecondArgument front) := by
  -- The marks of the other kinds are those of what the first pass makes of the text.
  obtain ⟨s₁, hs⟩ : ∃ s₁, s₁ = resizeCalls sizeOnly (Nat.toDigits 10 n) s := ⟨_, rfl⟩
  have hpass : Respaced s s₁ := by
    rw [hs]
    exact respaced_resizeCalls_only (isNumeral_toDigits n) false s
  have hfirst : Alike (fun _ _ => True) s₁ (resizeCalls sizeOnly (Nat.toDigits 10 n) s) := by
    rw [← hs]
    exact Alike.refl (by simp) s₁
  obtain ⟨only, honly⟩ := exists_marks .only false s
  obtain ⟨keyword, hkeyword⟩ := exists_marks .keyword false s₁
  obtain ⟨last, hlast⟩ := exists_marks .last false s₁
  obtain ⟨second, hsecond⟩ := exists_marks .second false s₁
  have hlength := hpass.length_numerals.symm
  rw [numerals_resizeFonts n honly hkeyword hlast hsecond hfirst,
    getElem?_overwriteAll honly.length_eq (hkeyword.length_eq.trans hlength)
      (hlast.length_eq.trans hlength) (hsecond.length_eq.trans hlength), hat.getElem?_numerals]
  obtain ⟨front', d', behind', hat', hindex, hfront⟩ := hat.exists_of_respaced hpass
  have back : InArguments .first front' → InArguments .first front := fun h =>
    h.of_respaced hat'.numeral hat.numeral hfront.symm
  split
  · rename_i hmark
    refine .inr ⟨rfl, ?_⟩
    rw [← hindex] at hmark
    rcases hmark with hmark | hmark | hmark | hmark
    · rw [hindex] at hmark
      obtain ⟨x, call, hknows, rfl, hx⟩ := honly.exists_call hat hmark
      exact .inl (hknows.inArguments hx)
    · obtain ⟨x, call, hknows, rfl, hx⟩ := hkeyword.exists_call hat' hmark
      exact .inl (back (hknows.inArguments hx))
    · obtain ⟨x, call, hknows, rfl, hx⟩ := hlast.exists_call hat' hmark
      exact .inl (back (hknows.inArguments hx))
    · obtain ⟨x, call, hknows, rfl, hx⟩ := hsecond.exists_call hat' hmark
      exact .inr ((hknows.isSecond hx).of_respaced hat'.numeral hat hfront.symm)
  · exact .inl rfl

/-- A number behind the first comma takes the size. -/
theorem IsSecondArgument.getElem?_numerals (h : IsSecondArgument front) (n : Nat)
    (hat : NumberAt s front d behind) :
    (numerals (resizeFonts n s))[(numerals front).length]? = some (Nat.toDigits 10 n) := by
  have hsize := isNumeral_toDigits n
  have hpass : Respaced s (resizeCalls sizeOnly (Nat.toDigits 10 n) s) :=
    respaced_resizeCalls_only hsize false s
  have hlater := (alike_resizeLater hsize (resizeCalls sizeOnly (Nat.toDigits 10 n) s)).respaced
  rw [← resizeFonts_eq_resizeLater] at hlater
  obtain ⟨front₁, d₁, behind₁, hat₁, hindex₁, hfront₁⟩ := hat.exists_of_respaced hpass
  obtain ⟨front₂, d₂, behind₂, hat₂, hindex₂, hfront₂⟩ := hat₁.exists_of_respaced hlater
  obtain ⟨args, ⟨x, lead, hfront, hx, hlead⟩, hargs⟩ :=
    (h.of_respaced hat.numeral hat₁ hfront₁).of_respaced hat₁.numeral hat₂ hfront₂
  have hsettled := settled_resizeFonts n s .second (by simp)
  rw [← hindex₁, ← hindex₂, hat₂.getElem?_numerals,
    hsettled.eq_of_isSecond hat₂ hfront hx hlead hargs]

/-- Every number outside the arguments of a call keeps its digits in exactly those scripts in which
every number adrift has the size already or is in the arguments of another call. -/
theorem resizeFonts_inside_iff (m : Matching) (n : Nat) (s : List Char) :
    (∀ front d behind, NumberAt s front d behind →
      (numerals (resizeFonts n s))[(numerals front).length]? = some d ∨ InArguments m front) ↔
    ∀ front d behind, NumberAt s front d behind → IsAdrift m front →
      d = Nat.toDigits 10 n ∨ InArguments m front := by
  constructor
  · rintro h front d behind hat ⟨args, hopened, hargs, -⟩
    refine (h front d behind hat).imp_left fun hkept => ?_
    rw [IsSecondArgument.getElem?_numerals ⟨args, hopened, hargs⟩ n hat] at hkept
    exact (Option.some.inj hkept).symm
  · intro h front d behind hat
    rcases getElem?_numerals_resizeFonts n hat with hkept | ⟨hsize, hplace⟩
    · exact .inl hkept
    rcases hplace with hinside | ⟨args, hopened, hargs⟩
    · exact .inr (hinside.of_first m)
    by_cases hclose : m.closes args
    · refine (h front d behind hat ⟨args, hopened, hargs, hclose⟩).imp_left ?_
      rintro rfl
      exact hsize
    · exact .inr ⟨_, by simp [callNames], args, hopened, hclose⟩

/-- A call with one argument: the first comma stands in the call behind it, and the second number of
that call takes the size. -/
theorem later_call_resized :
    ¬ ∀ front d behind, NumberAt "c.setFont(*heading)\nc.drawString(72, 720, title)".toList
        front d behind →
      (numerals (resizeFonts 14 "c.setFont(*heading)\nc.drawString(72, 720, title)".toList))[
          (numerals front).length]? = some d ∨ InArguments .counted front := by
  intro h
  have hat : NumberAt "c.setFont(*heading)\nc.drawString(72, 720, title)".toList
      "c.setFont(*heading)\nc.drawString(72, ".toList "720".toList ", title)".toList :=
    ⟨by decide +kernel, ⟨by decide, by simp [isDigit]⟩, by simp [isDigit],
      halts_cons.2 (by decide)⟩
  rcases h _ _ _ hat with hkept | hinside
  · exact absurd hkept (by decide +kernel)
  · exact absurd hinside (by decide +kernel)

end ScriptPress.Source
