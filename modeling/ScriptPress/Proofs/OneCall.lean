import ScriptPress.Proofs.LeftMarker
import ScriptPress.Proofs.SizeReach

/-!
# Scripts with one call

A method call in a text that opens no other call. A pass finds it if it is a call of the kind in
question, and leaves everything else. The kinds differ in the name that is called, and the two that
share a name differ in whether a sign stands among the arguments.

## Main definitions

* `SizeKind.IsNamed` — the name that the calls of a kind begin with.
* `IsSilent` — no call of a name is opened in the text.
* `oneCall` — a method call in a script.

## Main statements

* `IsOpening.append_inj` — one name is called at one place.
* `resizeCalls_oneCall`, `resizeCalls_oneCall_eq_self` — what a pass does to the script.
-/

namespace ScriptPress.Source

open Text

variable {kind : SizeKind} {name name' lead size s t x y pre post args : List Char} {c : Char}

/-! ## Names -/

theorem isWord_of_mem_callNames (h : name ∈ callNames) : ∀ c ∈ name, isWord c = true :=
  List.all_eq_true.1 ((by decide : ∀ name ∈ callNames, name.all isWord = true) name h)

/-- A name and its opening parenthesis hold no sign but the parenthesis. -/
theorem IsOpening.not_mem_of_isWord (h : IsOpening name lead) (hname : name ∈ callNames)
    (hword : isWord c = false) (hblank : isBlank c = false) (hopen : c ≠ '(') : c ∉ lead :=
  h.not_mem (fun hmem => by simp [isWord_of_mem_callNames hname c hmem] at hword) hblank hopen

theorem isOpening_append (name : List Char) : IsOpening name (name ++ ['(']) := by
  simpa using IsOpening.mk (List.forall_mem_nil _)

theorem IsOpening.ne_nil (h : IsOpening name lead) : lead ≠ [] := by
  cases h
  simp

theorem IsOpening.isPrefix (h : IsOpening name lead) : name <+: lead := by
  cases h
  simp

theorem IsOpening.mem (h : IsOpening name lead) : '(' ∈ lead := by
  cases h
  simp

/-- Two names with their parentheses at the beginning of a text are the same. -/
theorem IsOpening.append_inj (h : IsOpening name lead) (hname : name ∈ callNames)
    (hname' : name' ∈ callNames) (htext : lead ++ x = name' ++ '(' :: y) :
    name = name' ∧ x = y := by
  have hopen : isWord '(' = false ∧ isBlank '(' = false := by decide
  obtain @⟨gap, hgap⟩ := h
  have hhead : ∀ c ∈ (gap ++ '(' :: x).head?, isWord c = false := by
    cases gap with
    | nil => simpa using hopen.1
    | cons e gap => simpa using isWord_of_isBlank (hgap e (by simp))
  rw [List.append_assoc, List.append_assoc] at htext
  have hspan := takeWhile_append_of_all (isWord_of_mem_callNames hname) hhead
  have hspan' := takeWhile_append_of_all (t := '(' :: y) (isWord_of_mem_callNames hname')
    (by simpa using hopen.1)
  obtain rfl : name = name' := by rw [← hspan.1, ← hspan'.1]; exact congrArg _ htext
  have hrest := List.append_cancel_left htext
  cases gap with
  | nil => exact ⟨rfl, (List.cons.inj hrest).2⟩
  | cons e gap =>
    obtain ⟨rfl, -⟩ := List.cons.inj hrest
    simp [hgap '('] at hopen

theorem IsOpening.cancel (h : IsOpening name lead) (hname : name ∈ callNames)
    (htext : lead ++ x = name ++ '(' :: y) : x = y := (h.append_inj hname hname htext).2

/-- A call that is opened in a text has its name in front of a parenthesis or stands behind it. -/
theorem IsOpening.infix_of_append_cons (h : IsOpening name lead) (hname : name ∈ callNames)
    (hpart : lead <:+: x ++ '(' :: y) : name <:+: x ∨ lead <:+: y := by
  have hopen : '(' ∉ name := fun hmem => (isDigit_of_mem_callNames hname _ hmem).2 rfl
  have front : ∀ {x}, lead <+: x ++ '(' :: y → name <:+: x := fun hfront =>
    (prefix_of_append_cons hopen (h.isPrefix.trans hfront)).isInfix
  induction x with
  | nil => exact (List.infix_cons_iff.1 hpart).imp_left (front (x := []))
  | cons c x ih =>
    rcases List.infix_cons_iff.1 hpart with hpart | hpart
    · exact .inl (front (x := c :: x) hpart)
    · exact (ih hpart).imp_left fun hname => hname.trans (List.suffix_cons c x).isInfix

/-! ## One pass -/

/-- Every call of the kind begins with the name and an opening parenthesis. -/
structure SizeKind.IsNamed (kind : SizeKind) (name : List Char) : Prop where
  mem : name ∈ callNames
  opens : ∀ call, kind.Knows call → ∃ lead args, IsOpening name lead ∧ call.lead = lead ++ args

theorem SizeKind.isNamed_only : SizeKind.only.IsNamed "set_font_size".toList where
  mem := by simp [callNames]
  opens := by
    rintro _ @⟨lead, gap, digits, hlead, -⟩
    exact ⟨lead, [], hlead, by simp⟩

theorem SizeKind.isNamed_keyword : SizeKind.keyword.IsNamed "set_font".toList where
  mem := by simp [callNames]
  opens := by
    rintro _ @⟨lead, args, digits, hlead, -⟩
    exact ⟨lead, args, hlead, rfl⟩

theorem SizeKind.isNamed_last : SizeKind.last.IsNamed "set_font".toList where
  mem := by simp [callNames]
  opens := by
    rintro _ @⟨lead, args, gap, digits, behind, hlead, -⟩
    exact ⟨lead, args ++ [','] ++ gap, hlead, by simp⟩

theorem SizeKind.isNamed_second : SizeKind.second.IsNamed "setFont".toList where
  mem := by simp [callNames]
  opens := by
    rintro _ @⟨lead, face, gap, digits, hlead, -⟩
    exact ⟨lead, face ++ [','] ++ gap, hlead, by simp⟩

/-- No call of the name is opened in the text. -/
def IsSilent (name s : List Char) : Prop := ∀ lead, IsOpening name lead → ¬ lead <:+: s

theorem IsSilent.mono (h : IsSilent name s) (ht : t <:+: s) : IsSilent name t :=
  fun lead hlead hpart => h lead hlead (hpart.trans ht)

theorem isSilent_of_not_isInfix (h : ¬ name <:+: s) : IsSilent name s :=
  fun _ hlead hpart => h (hlead.isPrefix.isInfix.trans hpart)

/-- Behind the first letter of its name no other call is opened by a call. -/
theorem isSilent_call (hname : name ∈ callNames) (hname' : name' ∈ callNames) (hargs : '(' ∉ args)
    (hpost : IsSilent name post) :
    IsSilent name (name'.tail ++ '(' :: (args ++ ')' :: post)) := by
  have letters : ∀ name ∈ callNames, ∀ name' ∈ callNames, ¬ name <:+: name'.tail := by decide
  intro lead hlead hpart
  have hclose : ')' ∉ lead :=
    hlead.not_mem_of_isWord hname (by decide) (by decide) (by decide)
  rcases hlead.infix_of_append_cons hname hpart with hpart | hpart
  · exact letters name hname name' hname' hpart
  rcases Source.infix_of_append_cons hlead.ne_nil hclose hpart with hpart | hpart
  · exact hargs (hpart.subset hlead.mem)
  · exact hpost lead hlead hpart

namespace SizeKind.IsNamed

variable (h : kind.IsNamed name)
include h

theorem find_eq_none (hs : ∀ lead, IsOpening name lead → ¬ lead <+: s) : kind.find s = none := by
  rw [SizeKind.find_eq_none_iff]
  rintro call t hknows - rfl
  obtain ⟨lead, args, hlead, hcall⟩ := h.opens call hknows
  refine hs lead hlead ?_
  rw [SizeCall.text, hcall]
  simp

/-- A text in which no call is opened stays as it is. -/
theorem resizeCallsFrom_eq (hs : IsSilent name s) (size : List Char) (afterWord : Bool) :
    resizeCallsFrom kind.find size afterWord 0 s = s := by
  induction s generalizing afterWord with
  | nil => rfl
  | cons c s ih =>
    have hnone : kind.find (c :: s) = none :=
      h.find_eq_none fun lead hlead hpart => hs lead hlead hpart.isInfix
    rw [resizeCallsFrom_char fun _ => hnone, ih (hs.mono (List.suffix_cons c s).isInfix)]

/-- So does what stands in front of the point of a method call. -/
theorem resizeCallsFrom_append (hx : IsSilent name x) (size : List Char) (afterWord : Bool)
    (y : List Char) :
    resizeCallsFrom kind.find size afterWord 0 (x ++ '.' :: y) =
      x ++ '.' :: resizeCallsFrom kind.find size false 0 y := by
  induction x generalizing afterWord with
  | nil => exact resizeCallsFrom_char fun _ => kind.find_eq_none (by decide) y
  | cons c x ih =>
    have hnone : kind.find (c :: (x ++ '.' :: y)) = none := by
      refine h.find_eq_none fun lead hlead hpart => hx lead hlead ?_
      have hpoint : '.' ∉ lead :=
        hlead.not_mem_of_isWord h.mem (by decide) (by decide) (by decide)
      exact (prefix_of_append_cons (x := c :: x) hpoint hpart).isInfix
    rw [List.cons_append, resizeCallsFrom_char fun _ => hnone,
      ih (hx.mono (List.suffix_cons c x).isInfix), List.cons_append]

end SizeKind.IsNamed

/-! ## Scripts with one call -/

def oneCall (pre name args post : List Char) : List Char :=
  pre ++ '.' :: (name ++ '(' :: (args ++ ')' :: post))

section OneCall

variable (hpre : IsSilent name pre) (hpost : IsSilent name post) (hkind : kind.IsNamed name)
  (hname' : name' ∈ callNames) (hargs : '(' ∉ args)
include hpre hpost hkind hname' hargs

/-- A pass leaves the script if the call is none of its kind. -/
theorem resizeCalls_oneCall_eq_self
    (hnone : kind.find (name' ++ '(' :: (args ++ ')' :: post)) = none) (size : List Char) :
    resizeCalls kind.find size (oneCall pre name' args post) = oneCall pre name' args post := by
  have hsilent := isSilent_call hkind.mem hname' hargs hpost
  obtain ⟨letters, rfl⟩ := List.head?_eq_some_iff.1 (head?_of_mem_callNames hname')
  rw [List.cons_append] at hnone
  rw [resizeCalls, oneCall, hkind.resizeCallsFrom_append hpre, List.cons_append,
    resizeCallsFrom_char fun _ => hnone]
  exact congrArg (pre ++ '.' :: 's' :: ·) (hkind.resizeCallsFrom_eq hsilent ..)

/-- Otherwise it puts the size into the call and leaves the rest. -/
theorem resizeCalls_oneCall {call : SizeCall} (hknows : kind.Knows call)
    (htext : name' ++ '(' :: (args ++ ')' :: post) = call.text ++ t)
    (ht : call.tail = [] → Halts t) (size : List Char) :
    resizeCalls kind.find size (oneCall pre name' args post) =
      pre ++ '.' :: (call.withSize size ++ t) := by
  have hsilent := isSilent_call hkind.mem hname' hargs hpost
  have hbehind : t <:+: name'.tail ++ '(' :: (args ++ ')' :: post) := by
    obtain ⟨letters, rfl⟩ := List.head?_eq_some_iff.1 (head?_of_mem_callNames hname')
    obtain ⟨c, w, hw⟩ := List.exists_cons_of_length_pos (kind.sound hknows).length_text_pos
    rw [hw] at htext
    refine ⟨w, [], ?_⟩
    simpa using (List.cons.inj htext).2.symm
  rw [resizeCalls, oneCall, hkind.resizeCallsFrom_append hpre, htext,
    resizeCallsFrom_call hknows ht, hkind.resizeCallsFrom_eq (hsilent.mono hbehind)]

end OneCall

/-! ## Calls of other kinds -/

/-- No call of another name stands where a name does. -/
theorem SizeKind.IsNamed.find_eq_none_of_ne (h : kind.IsNamed name) (hname' : name' ∈ callNames)
    (hne : name ≠ name') (y : List Char) : kind.find (name' ++ '(' :: y) = none :=
  h.find_eq_none fun _ hlead ⟨_, htext⟩ => hne (hlead.append_inj h.mem hname' htext).1

/-- Arguments with a sign go on where others without one are closed. -/
theorem append_cons_ne_append (hu : '=' ∉ x) (hv : '=' ∈ y) (hclose : ')' ∉ y) :
    x ++ ')' :: s ≠ y ++ t := by
  intro htext
  obtain ⟨a, b, rfl⟩ := List.append_of_mem hv
  have hsign : '=' ∉ x ++ [')'] := by simpa using hu
  obtain ⟨m, rfl, -⟩ := exists_of_append_eq_append_cons (v := s) (s := a) (t := b ++ t) hsign
    (by simpa using htext)
  simp at hclose

/-- Without a sign, no argument is named. -/
theorem find_keyword_eq_none (hsign : '=' ∉ args) (post : List Char) :
    SizeKind.keyword.find ("set_font".toList ++ '(' :: (args ++ ')' :: post)) = none := by
  rw [SizeKind.find_eq_none_iff]
  rintro _ t @⟨lead, front, digits, hlead, hfront, -⟩ - htext
  have hargs : front ++ (digits ++ t) = args ++ ')' :: post :=
    hlead.cancel (by simp [callNames]) (.trans (by simp [SizeCall.text]) htext.symm)
  obtain ⟨x, sign, rfl, ⟨-⟩⟩ := hfront.sign
  exact append_cons_ne_append hsign (by simp) hfront.not_mem hargs.symm

/-- With a sign, the arguments are not plain. -/
theorem find_last_eq_none (hsign : '=' ∈ args) (hclose : ')' ∉ args) (post : List Char) :
    SizeKind.last.find ("set_font".toList ++ '(' :: (args ++ ')' :: post)) = none := by
  rw [SizeKind.find_eq_none_iff]
  rintro _ t @⟨lead, x, gap, digits, behind, hlead, -, hplain, hgap, hdigits, hbehind⟩ - htext
  have hargs : x ++ [','] ++ gap ++ digits ++ behind ++ ')' :: t = args ++ ')' :: post :=
    hlead.cancel (by simp [callNames]) (.trans (by simp [SizeCall.text]) htext.symm)
  have hx : '=' ∉ x := fun hmem => absurd (hplain _ hmem) (by decide)
  refine append_cons_ne_append ?_ hsign hclose hargs
  simp [hx, not_mem_of_isBlank hgap, not_mem_of_isBlank hbehind, hdigits.not_mem, isBlank, isDigit]

end ScriptPress.Source
