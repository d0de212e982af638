import Mathlib.Data.List.ReduceOption
import ScriptPress.Interpreter.Context

/-!
# Nested captures

A context has a place for one sink. Captures of its output nest all the same: a capture that begins
hands out the sink that was in place, and whoever began it gives that sink back as it ends. The
sinks that wait in the hands of callers and the one in place are a stack.

## Main definitions

* `OutputCall`, `performCalls` — calls about printed output, and what comes of them.
* `WellNested` — every capture ends, by its own sink, behind all that began within it.
* `ownText` — what is printed among calls, but within no capture that begins among them.
* `HandsBack` — every capture hands back its own text.

## Main statements

* `wellNested_iff` — calls nest if the captures that are open are a stack.
* `WellNested.performed` — what nested calls are answered with, and what they leave.
* `restores_return_ownText` — what every restore hands back, and the sink in the end.
* `outer_print_kept` — a sink that is not the one of the beginning in the end.
-/

namespace ScriptPress

/-! ## Calls -/

/-- A call about the printed output of a context. Captures are counted as they begin, and the
capture that ends with a restore is the one whose sink is given back. -/
inductive OutputCall where
  | print (text : String)
  | redirect
  | restore (capture : Nat)
  deriving DecidableEq, Repr

/-- A context, and the sinks that captures of its output handed out, first to last. -/
structure OutputState where
  context : Context
  handedOut : List (Option String)

def OutputCall.perform : OutputCall → OutputState → Option (Option String × OutputState)
  | print text, s => some (none, { s with context := s.context.print text })
  | redirect, s =>
    let (previous, c) := s.context.redirect
    some (none, ⟨c, s.handedOut ++ [previous]⟩)
  | restore n, s => do
    let (captured, c) := s.context.restore (← s.handedOut[n]?)
    return (some captured, { s with context := c })

def performCalls : List OutputCall → OutputState → Option (List (Option String) × OutputState)
  | [], s => some ([], s)
  | call :: calls, s => do
    let (answer, s) ← call.perform s
    let (answers, s) ← performCalls calls s
    return (answer :: answers, s)

@[simp] theorem OutputCall.perform_print (text : String) (s : OutputState) :
    (print text).perform s = some (none, { s with context := s.context.print text }) := rfl

@[simp] theorem OutputCall.perform_redirect (s : OutputState) :
    redirect.perform s =
      some (none, ⟨s.context.redirect.2, s.handedOut ++ [s.context.redirect.1]⟩) := rfl

theorem OutputCall.perform_restore {n : Nat} {s : OutputState} {previous : Option String}
    (token : s.handedOut[n]? = some previous) :
    (restore n).perform s =
      some (some (s.context.restore previous).1,
        { s with context := (s.context.restore previous).2 }) := by
  simp [perform, token]

variable {call : OutputCall} {calls inner : List OutputCall} {s s₁ s₂ : OutputState}
  {answer : Option String} {answers answers' : List (Option String)} {n : Nat}

theorem performCalls_cons (first : call.perform s = some (answer, s₁))
    (rest : performCalls calls s₁ = some (answers, s₂)) :
    performCalls (call :: calls) s = some (answer :: answers, s₂) := by
  simp [performCalls, first, rest]

theorem performCalls_append (front : performCalls inner s = some (answers, s₁))
    (rest : performCalls calls s₁ = some (answers', s₂)) :
    performCalls (inner ++ calls) s = some (answers ++ answers', s₂) := by
  induction inner generalizing s answers with
  | nil =>
    cases front
    exact rest
  | cons call inner ih =>
    simp only [performCalls, Option.bind_eq_bind, Option.bind_eq_some_iff] at front
    obtain ⟨⟨answer, s'⟩, first, ⟨tail, s₁⟩, more, same⟩ := front
    cases same
    exact performCalls_cons first (ih more)

/-! ## Nesting -/

def begun (calls : List OutputCall) : Nat := calls.count .redirect

@[simp] theorem begun_print (text : String) (calls : List OutputCall) :
    begun (.print text :: calls) = begun calls := by
  simp [begun]

@[simp] theorem begun_redirect (calls : List OutputCall) :
    begun (.redirect :: calls) = begun calls + 1 := by
  simp [begun]

@[simp] theorem begun_restore (n : Nat) (calls : List OutputCall) :
    begun (.restore n :: calls) = begun calls := by
  simp [begun]

@[simp] theorem begun_append (calls calls' : List OutputCall) :
    begun (calls ++ calls') = begun calls + begun calls' :=
  List.count_append

/-- Every capture that begins among the calls ends among them, behind all that began within it, and
by the sink that it handed out. In front of the calls, `n` captures have begun. -/
inductive WellNested : (n : Nat) → List OutputCall → Prop
  | nil (n : Nat) : WellNested n []
  | print {n : Nat} {calls : List OutputCall} (text : String) (rest : WellNested n calls) :
      WellNested n (.print text :: calls)
  | capture {n : Nat} {inner calls : List OutputCall} (within : WellNested (n + 1) inner)
      (rest : WellNested (n + 1 + begun inner) calls) :
      WellNested n (.redirect :: (inner ++ .restore n :: calls))

/-- The texts that are printed among calls while no capture is open, where `depth` captures are open
in front of them. -/
def textsOutside : (depth : Nat) → List OutputCall → List String
  | _, [] => []
  | 0, .print text :: calls => text :: textsOutside 0 calls
  | depth + 1, .print _ :: calls => textsOutside (depth + 1) calls
  | depth, .redirect :: calls => textsOutside (depth + 1) calls
  | depth, .restore _ :: calls => textsOutside (depth - 1) calls

/-- What is printed among calls, but within no capture that begins among them, from first to
last. -/
def ownText (calls : List OutputCall) : String := String.join (textsOutside 0 calls)

@[simp] theorem ownText_nil : ownText [] = "" := rfl

@[simp] theorem ownText_print (text : String) (calls : List OutputCall) :
    ownText (.print text :: calls) = text ++ ownText calls := by
  simp [ownText, textsOutside]

theorem WellNested.textsOutside_append (nested : WellNested n inner) (depth : Nat)
    (calls : List OutputCall) :
    textsOutside (depth + 1) (inner ++ calls) = textsOutside (depth + 1) calls := by
  induction nested generalizing depth calls with
  | nil => rfl
  | print text _ ih => exact ih depth calls
  | @capture n inner more _ _ ihInner ihMore =>
    calc textsOutside (depth + 1) (.redirect :: (inner ++ .restore n :: more) ++ calls)
        = textsOutside (depth + 2) (inner ++ .restore n :: (more ++ calls)) := by
          simp [textsOutside]
      _ = textsOutside (depth + 1) (more ++ calls) := ihInner (depth + 1) _
      _ = textsOutside (depth + 1) calls := ihMore depth calls

theorem WellNested.ownText_capture (within : WellNested n inner) (k : Nat)
    (calls : List OutputCall) :
    ownText (.redirect :: (inner ++ .restore k :: calls)) = ownText calls :=
  congrArg String.join (within.textsOutside_append 0 (.restore k :: calls))

/-! ### The discipline of a stack -/

/-- Whether calls end the captures that are open in front of them, which are given with the
innermost first, and those that begin among them, always the innermost first. -/
def endsAll : (opened : List Nat) → (n : Nat) → List OutputCall → Bool
  | opened, _, [] => opened.isEmpty
  | opened, n, .print _ :: calls => endsAll opened n calls
  | opened, n, .redirect :: calls => endsAll (n :: opened) (n + 1) calls
  | [], _, .restore _ :: _ => false
  | m :: opened, n, .restore k :: calls => k == m && endsAll opened n calls

/-- Behind nested calls, every open capture ends in its turn, with nested calls between two ends. -/
inductive Unwinds : (opened : List Nat) → (n : Nat) → List OutputCall → Prop
  | nested {n : Nat} {calls : List OutputCall} (nested : WellNested n calls) : Unwinds [] n calls
  | ending {opened : List Nat} {m n : Nat} {inner calls : List OutputCall}
      (nested : WellNested n inner) (rest : Unwinds opened (n + begun inner) calls) :
      Unwinds (m :: opened) n (inner ++ .restore m :: calls)

namespace Unwinds

variable {opened : List Nat}

theorem print (text : String) (h : Unwinds opened n calls) :
    Unwinds opened n (.print text :: calls) := by
  cases h with
  | nested nested => exact .nested (.print text nested)
  | ending nested rest => exact .ending (.print text nested) (by simpa using rest)

theorem capture (within : WellNested (n + 1) inner)
    (h : Unwinds opened (n + 1 + begun inner) calls) :
    Unwinds opened n (.redirect :: (inner ++ .restore n :: calls)) := by
  cases h with
  | nested rest => exact .nested (.capture within rest)
  | @ending opened m _ inner' calls nested rest =>
    have split : OutputCall.redirect :: (inner ++ .restore n :: (inner' ++ .restore m :: calls)) =
        .redirect :: (inner ++ .restore n :: inner') ++ .restore m :: calls := by
      simp
    have count : n + begun (.redirect :: (inner ++ .restore n :: inner')) =
        n + 1 + begun inner + begun inner' := by
      simp
      omega
    rw [split]
    exact .ending (.capture within nested) (count ▸ rest)

end Unwinds

theorem unwinds_of_endsAll {opened : List Nat} (h : endsAll opened n calls = true) :
    Unwinds opened n calls := by
  induction calls generalizing opened n with
  | nil =>
    obtain rfl : opened = [] := List.isEmpty_iff.1 h
    exact .nested (.nil n)
  | cons call calls ih =>
    cases call with
    | print text => exact (ih h).print text
    | redirect =>
      cases ih h with
      | ending within rest => exact rest.capture within
    | restore k =>
      cases opened with
      | nil => cases h
      | cons m opened =>
        obtain ⟨same, rest⟩ := (Bool.and_eq_true _ _).mp h
        obtain rfl := eq_of_beq same
        exact .ending (.nil n) (ih rest)

theorem WellNested.endsAll_append (nested : WellNested n inner) (opened : List Nat)
    (calls : List OutputCall) :
    endsAll opened n (inner ++ calls) = endsAll opened (n + begun inner) calls := by
  induction nested generalizing opened calls with
  | nil => rfl
  | print text _ ih => simpa [endsAll] using ih opened calls
  | @capture n inner more _ _ ihInner ihMore =>
    calc endsAll opened n (.redirect :: (inner ++ .restore n :: more) ++ calls)
        = endsAll (n :: opened) (n + 1) (inner ++ .restore n :: (more ++ calls)) := by
          simp [endsAll]
      _ = endsAll opened (n + 1 + begun inner) (more ++ calls) := by
          rw [ihInner, endsAll, BEq.rfl, Bool.true_and]
      _ = endsAll opened (n + begun (.redirect :: (inner ++ .restore n :: more))) calls := by
          rw [ihMore]
          congr 1
          simp
          omega

/-- Calls nest if the captures that begin among them are a stack. -/
theorem wellNested_iff : WellNested n calls ↔ endsAll [] n calls = true := by
  constructor
  · intro nested
    simpa [endsAll] using nested.endsAll_append [] []
  · intro h
    cases unwinds_of_endsAll h with
    | nested nested => exact nested

instance (n : Nat) (calls : List OutputCall) : Decidable (WellNested n calls) :=
  decidable_of_iff _ wellNested_iff.symm

/-! ## Answers -/

/-- Every restore is answered with what was printed within its capture, but within no inner one;
no other call is answered. -/
inductive HandsBack : (n : Nat) → List OutputCall → List (Option String) → Prop
  | nil (n : Nat) : HandsBack n [] []
  | print {n : Nat} {calls : List OutputCall} {answers : List (Option String)} (text : String)
      (rest : HandsBack n calls answers) : HandsBack n (.print text :: calls) (none :: answers)
  | capture {n : Nat} {inner calls : List OutputCall} {answers answers' : List (Option String)}
      (nested : WellNested (n + 1) inner) (within : HandsBack (n + 1) inner answers)
      (rest : HandsBack (n + 1 + begun inner) calls answers') :
      HandsBack n (.redirect :: (inner ++ .restore n :: calls))
        (none :: (answers ++ some (ownText inner) :: answers'))

def OutputCall.text? : OutputCall → Option String
  | print text => some text
  | _ => none

def printedText (calls : List OutputCall) : String := String.join (calls.filterMap OutputCall.text?)

@[simp] theorem printedText_print (text : String) (calls : List OutputCall) :
    printedText (.print text :: calls) = text ++ printedText calls := by
  simp [printedText, OutputCall.text?]

@[simp] theorem printedText_capture (inner calls : List OutputCall) (n : Nat) :
    printedText (.redirect :: (inner ++ .restore n :: calls)) =
      printedText inner ++ printedText calls := by
  simp [printedText, OutputCall.text?, List.filterMap_cons]

/-- Two cuts of a list at an element: the second is behind the first, or the same, or before it. -/
theorem append_cons_cases {α : Type} {xs ys xs' ys' : List α} {x x' : α}
    (same : xs ++ x :: ys = xs' ++ x' :: ys') :
    (∃ zs, xs' = xs ++ x :: zs ∧ ys = zs ++ x' :: ys') ∨ (xs = xs' ∧ x = x' ∧ ys = ys') ∨
      ∃ zs, xs = xs' ++ x' :: zs ∧ ys' = zs ++ x :: ys := by
  obtain ⟨zs, rfl, tail⟩ | ⟨zs, rfl, tail⟩ := List.append_eq_append_iff.1 same
  · cases zs with
    | nil =>
      obtain ⟨rfl, rfl⟩ := List.cons.inj tail
      exact .inr (.inl ⟨(List.append_nil xs).symm, rfl, rfl⟩)
    | cons z zs =>
      obtain ⟨rfl, rfl⟩ := List.cons.inj tail
      exact .inl ⟨zs, rfl, rfl⟩
  · cases zs with
    | nil =>
      obtain ⟨rfl, rfl⟩ := List.cons.inj tail
      exact .inr (.inl ⟨List.append_nil xs', rfl, rfl⟩)
    | cons z zs =>
      obtain ⟨rfl, rfl⟩ := List.cons.inj tail
      exact .inr (.inr ⟨zs, rfl, rfl⟩)

namespace HandsBack

theorem length_eq (h : HandsBack n calls answers) : answers.length = calls.length := by
  induction h with
  | nil => rfl
  | print text _ ih => simp [ih]
  | capture _ _ _ ihWithin ihRest => simp [ihWithin, ihRest]

/-- In front of a restore stands the beginning of its capture, with nested calls between them. -/
theorem exists_redirect (h : HandsBack n calls answers) {front behind : List OutputCall} {k : Nat}
    (split : calls = front ++ .restore k :: behind) :
    ∃ before inner, front = before ++ .redirect :: inner ∧ n + begun before = k ∧
      WellNested (k + 1) inner ∧ answers[front.length]? = some (some (ownText inner)) := by
  induction h generalizing front behind with
  | nil => simp at split
  | print text rest ih =>
    cases front with
    | nil => cases split
    | cons call front =>
      obtain ⟨rfl, tail⟩ := List.cons.inj split
      obtain ⟨before, inner, rfl, count, nested, answer⟩ := ih tail
      exact ⟨.print text :: before, inner, rfl, by simpa using count, nested, by simpa using answer⟩
  | @capture n within calls answers answers' nested inside rest ihInside ihRest =>
    cases front with
    | nil => cases split
    | cons call front =>
      obtain ⟨rfl, tail⟩ := List.cons.inj split
      have length := inside.length_eq
      obtain ⟨more, rfl, later⟩ | ⟨rfl, same, -⟩ | ⟨more, rfl, -⟩ := append_cons_cases tail
      · -- The restore stands behind the capture.
        obtain ⟨before, inner, rfl, count, nested', answer⟩ := ihRest later
        have total : n + begun (.redirect :: (within ++ .restore n :: before)) = k := by
          simp only [begun_redirect, begun_append, begun_restore]
          omega
        refine ⟨.redirect :: (within ++ .restore n :: before), inner, by simp, total, nested', ?_⟩
        rw [List.length_cons, List.getElem?_cons_succ, List.length_append, ← length,
          List.getElem?_append_right (Nat.le_add_right _ _), Nat.add_sub_cancel_left,
          List.length_cons, List.getElem?_cons_succ, answer]
      · -- It ends the capture.
        cases same
        exact ⟨[], within, rfl, rfl, nested, by simp [← length]⟩
      · -- It stands within the capture.
        obtain ⟨before, inner, rfl, count, nested', answer⟩ := ihInside rfl
        have total : n + begun (.redirect :: before) = k := by
          rw [begun_redirect]
          omega
        obtain ⟨inFront, -⟩ := List.getElem?_eq_some_iff.1 answer
        refine ⟨.redirect :: before, inner, rfl, total, nested', ?_⟩
        rw [List.length_cons, List.getElem?_cons_succ, List.getElem?_append_left inFront, answer]

/-- Every letter that is printed is handed back once, or is printed outside of all captures. -/
theorem letters_perm (h : HandsBack n calls answers) :
    (printedText calls).toList.Perm
      ((ownText calls).toList ++ (String.join answers.reduceOption).toList) := by
  induction h with
  | nil => rfl
  | print text _ ih =>
    simpa [List.reduceOption_cons_of_none, List.append_assoc] using ih.append_left text.toList
  | @capture n inner calls answers answers' nested _ _ ihWithin ihRest =>
    rw [List.perm_iff_count] at ihWithin ihRest ⊢
    intro letter
    have within := ihWithin letter
    have rest := ihRest letter
    simp only [printedText_capture, nested.ownText_capture, List.reduceOption_cons_of_none,
      List.reduceOption_append, List.reduceOption_cons_of_some, String.join_append,
      String.join_cons, String.toList_append, List.count_append] at within rest ⊢
    omega

end HandsBack

/-! ## Nested captures -/

@[simp] theorem Context.print_empty (c : Context) : c.print "" = c := by
  simp [Context.print]

@[simp] theorem Context.print_print (c : Context) (text text' : String) :
    (c.print text).print text' = c.print (text ++ text') := by
  simp [Context.print, Function.comp_def, String.append_assoc]

/-- A capture hands back what was printed meanwhile, and the context is the one in front of it. -/
theorem Context.restore_print_redirect (c : Context) (text : String) :
    (c.redirect.2.print text).restore c.redirect.1 = (text, c) := by
  simp [Context.restore, Context.print, Context.redirect]

/-- Nested calls can be carried out. Every restore is answered with what was printed in its capture,
but in no inner one, and the context behind the calls is as if only what stands outside of all
captures had been printed. -/
theorem WellNested.performed (nested : WellNested n calls) (c : Context)
    (handedOut : List (Option String)) (length : handedOut.length = n) :
    ∃ answers more, HandsBack n calls answers ∧ more.length = begun calls ∧
      performCalls calls ⟨c, handedOut⟩ =
        some (answers, ⟨c.print (ownText calls), handedOut ++ more⟩) := by
  induction nested generalizing c handedOut with
  | nil n => exact ⟨[], [], .nil n, rfl, by simp [performCalls]⟩
  | print text _ ih =>
    obtain ⟨answers, more, handsBack, count, performed⟩ := ih (c.print text) handedOut length
    refine ⟨none :: answers, more, .print text handsBack, by simpa using count, ?_⟩
    exact performCalls_cons (OutputCall.perform_print text _) (by simpa using performed)
  | @capture n inner calls within _ ihWithin ihRest =>
    obtain ⟨answers, more, handsBack, count, performed⟩ :=
      ihWithin c.redirect.2 (handedOut ++ [c.redirect.1]) (by simp [length])
    obtain ⟨answers', more', handsBack', count', performed'⟩ :=
      ihRest c (handedOut ++ [c.redirect.1] ++ more) (by simp [length, count]; omega)
    -- The sink that was handed out in front of the inner calls is found again behind them.
    have token : (handedOut ++ [c.redirect.1] ++ more)[n]? = some c.redirect.1 := by
      simp [← length]
    have ends := OutputCall.perform_restore
      (s := ⟨c.redirect.2.print (ownText inner), handedOut ++ [c.redirect.1] ++ more⟩) token
    rw [Context.restore_print_redirect] at ends
    have whole := performCalls_cons (OutputCall.perform_redirect ⟨c, handedOut⟩)
      (performCalls_append performed (performCalls_cons ends performed'))
    refine ⟨none :: (answers ++ some (ownText inner) :: answers'), c.redirect.1 :: (more ++ more'),
      .capture within handsBack handsBack', ?_, ?_⟩
    · simp [count, count']
    · rw [within.ownText_capture, whole]
      simp

/-- A text that is printed leaves the sink as it is if no text is kept or there is nothing in it. -/
theorem Context.sink_print_eq_iff (c : Context) (text : String) :
    (c.print text).sink = c.sink ↔ c.sink = none ∨ text = "" := by
  cases kept : c.sink with
  | none => simp [Context.print, kept]
  | some before => simp [Context.print, kept, String.append_eq_left_iff]

/-- Calls that nest can be carried out on any context, also within captures that began before. In
front of every restore its own capture begins, the calls between them nest, and the answer is
exactly what is printed among these, but in no capture that begins among them, from first to last.
Every letter is handed back by one restore, or it is printed outside of all captures of the calls.
In the end the sink of the beginning is in place again, and the rest of the context is as it was. A
sink that keeps text has taken what is printed outside of all captures, as a capture around the
calls must; so it is the very same exactly if no text is kept, or none is printed there. -/
theorem restores_return_ownText {s : OutputState} {calls : List OutputCall}
    (nested : WellNested s.handedOut.length calls) :
    ∃ answers s', performCalls calls s = some (answers, s') ∧
      (∀ front n behind, calls = front ++ .restore n :: behind →
        ∃ before inner, front = before ++ .redirect :: inner ∧
          s.handedOut.length + begun before = n ∧ WellNested (n + 1) inner ∧
          answers[front.length]? = some (some (ownText inner))) ∧
      (printedText calls).toList.Perm
        ((ownText calls).toList ++ (String.join answers.reduceOption).toList) ∧
      s'.context = { s.context with sink := s.context.sink.map (· ++ ownText calls) } ∧
      (s'.context.sink = s.context.sink ↔ s.context.sink = none ∨ ownText calls = "") := by
  obtain ⟨answers, more, handsBack, -, performed⟩ := nested.performed s.context s.handedOut rfl
  exact ⟨answers, _, performed, fun front n behind => handsBack.exists_redirect,
    handsBack.letters_perm, rfl, s.context.sink_print_eq_iff _⟩

/-- Calls in a capture that began before: one capture with two in it, and an empty one at the
bottom. -/
def nestedPrints : List OutputCall :=
  [.print "a", .redirect, .print "b", .redirect, .print "c", .redirect, .restore 3, .print "d",
    .restore 2, .print "e", .redirect, .print "f", .restore 4, .print "g", .restore 1, .print "h"]

/-- The outer capture hands back what stands in front of its inner ones, between them and behind
them, and the capture that began before goes on. -/
theorem nestedPrints_return :
    let c : Context := .new "" .none false
    let s : OutputState := ⟨c.redirect.2.print "x", [c.redirect.1]⟩
    WellNested s.handedOut.length nestedPrints ∧
      ∃ answers s', performCalls nestedPrints s = some (answers, s') ∧
        answers.reduceOption = ["", "cd", "f", "beg"] ∧
        (∃ before inner, nestedPrints.take 14 = before ++ .redirect :: inner ∧
          begun before = 0 ∧ ownText inner = "beg") ∧
        s'.context.sink = some "xah" := by
  intro c s
  have nested : WellNested s.handedOut.length nestedPrints := by decide +kernel
  obtain ⟨answers, s', performed, restores, -, context, -⟩ := restores_return_ownText nested
  have computed : (performCalls nestedPrints s).map (·.1) =
      some [none, none, none, none, none, none, some "", none, some "cd", none, none, none,
        some "f", none, some "beg", none] := by
    decide +kernel
  obtain rfl : answers = _ := Option.some.inj (by simpa [performed] using computed)
  obtain ⟨before, inner, split, count, -, answer⟩ :=
    restores (nestedPrints.take 14) 1 [.print "h"] rfl
  refine ⟨nested, _, s', performed, rfl, ⟨before, inner, split, ?_, ?_⟩, ?_⟩
  · exact Nat.add_left_cancel count
  · simpa using (Option.some.inj (Option.some.inj answer)).symm
  · rw [context]
    decide +kernel

/-- A text that is printed outside of all captures of the calls stays in the capture that began
before them. -/
theorem outer_print_kept :
    let c : Context := .new "" .none false
    let s : OutputState := ⟨c.redirect.2.print "x", [c.redirect.1]⟩
    WellNested s.handedOut.length [.print "a"] ∧ s.context.sink = some "x" ∧
      (performCalls [.print "a"] s).map (·.2.context.sink) = some (some "xa") := by
  decide +kernel

end ScriptPress
