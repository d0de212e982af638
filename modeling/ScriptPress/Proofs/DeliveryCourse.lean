import ScriptPress.Conversion.Delivery
import ScriptPress.Proofs.Work

/-!
# Courses of a delivery

Every course that a run and the search for something to deliver can take: one relation for each of
their parts, with the result, the entries and the session afterwards of each course.

## Main definitions

* `Written` — a document is written.
* `Ran` — a script runs.
* `Tried`, `TriedAll` — functions are called until one leaves a document.
* `Resolved` — the search for something to deliver.
* `Entry.ofRun` — what belongs to running a script.

## Main statements

* `Conversion.meets_runScript`, `Conversion.meets_tryFunctions`, `Conversion.meets_resolve` — there
  are no other courses.
* `Resolved.ofRun_or` — what a search consists of.
-/

namespace ScriptPress

open Page Text

variable {σ : Type}

/-! ## The courses -/

/-- A document is written under a name, or the store refuses it. -/
inductive Written (name : String) (bytes : Bytes) :
    Except DrawError String → List Entry → Session σ → Prop
  | kept {s' : Session σ} (holds : s'.sandbox.store.Holds name bytes) :
      Written name bytes (.ok name) [.accessed .request (.write name bytes) true] s'
  | refused {s' : Session σ} (e : StoreError) :
      Written name bytes (.error (.storage name e.message))
        [.accessed .request (.write name bytes) false] s'

/-- A script runs from the given session on, with its output captured. -/
inductive Ran (script : String) (c : Context) (limit : Nat) (s : Session σ) :
    RunResult × String × Context → List Entry → Session σ → Prop
  | timedOut {printed : String} {c' : Context} {es : List Entry} {s' : Session σ}
      (calls : Calls (runDeadline s.clock limit - s.clock)
        (.execute script c.script .timedOut) es) (captured : Captured c es printed c') :
      Ran script c limit s (.failure (.timeout (max 1 (limit / 1000))), printed, c') es s'
  | raised {printed : String} {c' : Context} {es : List Entry} {s' : Session σ}
      (e : RuntimeException)
      (calls : Calls (runDeadline s.clock limit - s.clock)
        (.execute script c.script (.raised e)) es) (captured : Captured c es printed c') :
      Ran script c limit s (.failure (.ofException script e), printed, c') es s'
  | unlisted {printed : String} {c' : Context} {es : List Entry} {s' : Session σ} (e : StoreError)
      (calls : Calls (runDeadline s.clock limit - s.clock)
        (.execute script c.script .returned) es) (captured : Captured c es printed c') :
      Ran script c limit s (.failure (.system e.message), printed, c')
        (es ++ [.accessed .request .list false]) s'
  | listed {printed : String} {c' : Context} {es : List Entry} {s' : Session σ}
      (calls : Calls (runDeadline s.clock limit - s.clock)
        (.execute script c.script .returned) es) (captured : Captured c es printed c') :
      Ran script c limit s (.success s'.sandbox.store.documents, printed, c')
        (es ++ [.accessed .request .list true]) s'

/-- A function is called with each of the arguments in turn, as long as the calls raise. -/
inductive Tried (deadline : Nat) (function : String) : List (Option String) → Session σ →
    Attempt × Context → List Entry → Session σ → Prop
  | exhausted (s : Session σ) (c : Context) :
      Tried deadline function [] s (.nothing, c) [] s
  | timedOut {arg : Option String} {args : List (Option String)} {s s' : Session σ} {c : Context}
      {es : List Entry}
      (calls : Calls (deadline - s.clock) (.invoke function arg .timedOut) es) :
      Tried deadline function (arg :: args) s (.stopped, c) es s'
  | raised {arg : Option String} {args : List (Option String)} {s s₁ s' : Session σ}
      {result : Attempt × Context} {es es' : List Entry} (e : RuntimeException)
      (calls : Calls (deadline - s.clock) (.invoke function arg (.raised e)) es)
      (leads : s.Leads es s₁) (rest : Tried deadline function args s₁ result es' s') :
      Tried deadline function (arg :: args) s result (es ++ es') s'
  | unlisted {arg : Option String} {args : List (Option String)} {s s' : Session σ} {c : Context}
      {es : List Entry}
      (calls : Calls (deadline - s.clock) (.invoke function arg .returned) es) :
      Tried deadline function (arg :: args) s (.stopped, c)
        (es ++ [.accessed .request .list false]) s'
  | barren {arg : Option String} {args : List (Option String)} {s s₁ s' : Session σ} {c : Context}
      {es : List Entry}
      (calls : Calls (deadline - s.clock) (.invoke function arg .returned) es)
      (leads : s.Leads es s₁) (found : s₁.sandbox.store.documents = []) :
      Tried deadline function (arg :: args) s (.nothing, c)
        (es ++ [.accessed .request .list true]) s'
  | produced {arg : Option String} {args : List (Option String)} {s s₁ s' : Session σ}
      {c : Context} {es : List Entry}
      (calls : Calls (deadline - s.clock) (.invoke function arg .returned) es)
      (leads : s.Leads es s₁) (found : s₁.sandbox.store.documents ≠ [])
      (still : s'.sandbox.store.documents = s₁.sandbox.store.documents) :
      Tried deadline function (arg :: args) s (.produced function s₁.sandbox.store.documents, c)
        (es ++ [.accessed .request .list true]) s'

/-- Functions are called one after the other until one leaves a document, or no more calls are to
be made. -/
inductive TriedAll (deadline : Nat) : List String → Session σ → Attempt × Context → List Entry →
    Session σ → Prop
  | exhausted (s : Session σ) (c : Context) : TriedAll deadline [] s (.nothing, c) [] s
  | next {function : String} {functions : List String} {s s₁ s' : Session σ} {c : Context}
      {result : Attempt × Context} {es es' : List Entry}
      (tried : Tried deadline function [none, some printoutName] s (.nothing, c) es s₁)
      (leads : s.Leads es s₁) (rest : TriedAll deadline functions s₁ result es' s') :
      TriedAll deadline (function :: functions) s result (es ++ es') s'
  | decided {function : String} {functions : List String} {s s' : Session σ}
      {result : Attempt × Context} {es : List Entry}
      (tried : Tried deadline function [none, some printoutName] s result es s')
      (decided : result.1 ≠ .nothing) :
      TriedAll deadline (function :: functions) s result es s'

/-- Whether functions of the script are called after a run that left and printed nothing. -/
def ResolveOptions.callsFunctions (options : ResolveOptions) (c : Context) : Bool :=
  options.autoInvoke && !c.functions.isEmpty && c.autoInvoked.isNone

/-- Something to deliver is searched for after a run that ended well. -/
inductive Resolved (c : Context) (pdfs : List String) (printed : String)
    (options : ResolveOptions) (s : Session σ) :
    Resolution × Context → List Entry → Session σ → Prop
  | saved (found : pdfs ≠ []) :
      Resolved c pdfs printed options s (.delivered ⟨Conversion.savedOutcome c, pdfs⟩, c) [] s
  | undrawn {e : DrawError} (unsaved : pdfs = []) (spoken : isBlankText printed.toList = false)
      (drawn : printout s.sandbox.patches printed options.fontSize = .error e) :
      Resolved c pdfs printed options s
        (.failed (.system s!"could not typeset printed output: {e.message}"), c) [] s
  | unwritten {d : Document} {es : List Entry} {s' : Session σ} {e : DrawError}
      (unsaved : pdfs = []) (spoken : isBlankText printed.toList = false)
      (drawn : printout s.sandbox.patches printed options.fontSize = .ok d)
      (written : Written printoutName d.bytes (.error e) es s') :
      Resolved c pdfs printed options s
        (.failed (.system s!"could not typeset printed output: {e.message}"), c) es s'
  | typeset {d : Document} {es : List Entry} {s' : Session σ} (unsaved : pdfs = [])
      (spoken : isBlankText printed.toList = false)
      (drawn : printout s.sandbox.patches printed options.fontSize = .ok d)
      (written : Written printoutName d.bytes (.ok printoutName) es s') :
      Resolved c pdfs printed options s (.delivered ⟨.fromStdout, [printoutName]⟩, c) es s'
  | beyondClock (unsaved : pdfs = []) (silent : isBlankText printed.toList = true)
      (calls : options.callsFunctions c = true)
      (limit : deadline? s.clock options.limit = none) :
      Resolved c pdfs printed options s (.beyondClock, c) [] s
  | produced {s' : Session σ} {es : List Entry} {function : String} {artifacts : List String}
      {c' : Context} {deadline : Nat} (unsaved : pdfs = [])
      (silent : isBlankText printed.toList = true) (calls : options.callsFunctions c = true)
      (limit : deadline? s.clock options.limit = some deadline)
      (tried : TriedAll deadline c.functions.functions s (.produced function artifacts, c') es s') :
      Resolved c pdfs printed options s (.delivered ⟨.autoInvoked function, artifacts⟩, c') es s'
  | fruitless {s' : Session σ} {es : List Entry} {attempt : Attempt} {c' : Context} {deadline : Nat}
      (unsaved : pdfs = []) (silent : isBlankText printed.toList = true)
      (calls : options.callsFunctions c = true)
      (limit : deadline? s.clock options.limit = some deadline)
      (fruitless : attempt = .nothing ∨ attempt = .stopped)
      (tried : TriedAll deadline c.functions.functions s (attempt, c') es s') :
      Resolved c pdfs printed options s (.failed .noOutput, c') es s'
  | noOutput (unsaved : pdfs = []) (silent : isBlankText printed.toList = true)
      (calls : options.callsFunctions c = false) :
      Resolved c pdfs printed options s (.failed .noOutput, c) [] s

/-! ## There are no others -/

namespace Conversion

variable (interpreter : Interpreter σ)

theorem meets_writeDocument (name : String) (d : Document) (s : Session σ) :
    Meets (writeDocument name d) s (Written name d.bytes) := by
  refine (meets_write name d.bytes s).bind fun r es s₁ _ h => ?_
  obtain ⟨rfl, holds⟩ := h
  cases r with
  | ok _ => exact meets_pure (.kept (holds rfl))
  | error e => exact meets_pure (.refused e)

theorem meets_runScript (script : String) (c : Context) (limit : Nat) (s : Session σ) :
    Meets (runScript interpreter script c limit) s (Ran script c limit s) := by
  refine meets_now_bind ((meets_execute interpreter _ script c s).bind fun r es s₁ _ h => ?_)
  obtain ⟨ending, printed, c'⟩ := r
  obtain ⟨calls, captured⟩ := h
  match ending with
  | none => exact meets_pure (by simpa using .timedOut calls captured)
  | some (.error e) => exact meets_pure (by simpa using .raised e calls captured)
  | some (.ok ()) =>
    refine (meets_listPdfs s₁).bind fun r es' s₂ _ h => ?_
    obtain ⟨rfl, listed⟩ := h
    cases r with
    | error e => exact meets_pure (.unlisted e calls captured)
    | ok pdfs =>
      obtain ⟨-, -, rfl⟩ := listed
      exact meets_pure (.listed calls captured)

theorem meets_tryFunction (deadline : Nat) (function : String) (args : List (Option String))
    (c : Context) (s : Session σ) :
    Meets (tryFunction interpreter deadline function args c) s
      (Tried deadline function args s) := by
  induction args generalizing c s with
  | nil => exact meets_pure (.exhausted s c)
  | cons arg args ih =>
    refine (meets_invoke interpreter deadline function arg c s).bind fun r es s₁ leads h => ?_
    obtain ⟨ending, printed, c'⟩ := r
    obtain ⟨calls, -⟩ := h
    match ending with
    | none => exact meets_pure (by simpa using .timedOut calls)
    | some (.error e) => exact (ih c' s₁).mono fun _ _ _ _ rest => .raised e calls leads rest
    | some (.ok ()) =>
      refine (meets_listPdfs s₁).bind fun r es' s₂ _ h => ?_
      obtain ⟨rfl, listed⟩ := h
      match r with
      | .error e => exact meets_pure (.unlisted calls)
      | .ok [] => exact meets_pure (.barren calls leads listed.2.1.symm)
      | .ok (pdf :: pdfs) =>
        obtain ⟨-, before, after⟩ := listed
        refine meets_pure ?_
        rw [before]
        exact .produced calls leads (before ▸ List.cons_ne_nil _ _) (after.symm.trans before)

theorem meets_tryFunctions (deadline : Nat) (functions : List String) (c : Context)
    (s : Session σ) :
    Meets (tryFunctions interpreter deadline functions c) s (TriedAll deadline functions s) := by
  induction functions generalizing c s with
  | nil => exact meets_pure (.exhausted s c)
  | cons function functions ih =>
    have first := meets_tryFunction interpreter deadline function [none, some printoutName] c s
    refine first.bind fun r es s₁ leads tried => ?_
    match r with
    | (.nothing, c') => exact (ih c' s₁).mono fun _ _ _ _ rest => .next tried leads rest
    | (.stopped, c') => exact meets_pure (by simpa using .decided tried (by simp))
    | (.produced f pdfs, c') => exact meets_pure (by simpa using .decided tried (by simp))

theorem meets_autoInvoke {pdfs : List String} {printed : String} {options : ResolveOptions}
    (c : Context) (s : Session σ) (unsaved : pdfs = [])
    (silent : isBlankText printed.toList = true) (calls : options.callsFunctions c = true) :
    Meets (autoInvoke interpreter c options.limit) s (Resolved c pdfs printed options s) := by
  refine meets_now_bind ?_
  cases limit : deadline? s.clock options.limit with
  | none => exact meets_pure (.beyondClock unsaved silent calls limit)
  | some deadline =>
    refine (meets_tryFunctions interpreter deadline _ c s).bind fun r es s₁ _ tried => ?_
    match r with
    | (.produced f artifacts, c') =>
      exact meets_pure (by simpa using .produced unsaved silent calls limit tried)
    | (.nothing, c') =>
      exact meets_pure (by simpa using .fruitless unsaved silent calls limit (.inl rfl) tried)
    | (.stopped, c') =>
      exact meets_pure (by simpa using .fruitless unsaved silent calls limit (.inr rfl) tried)

theorem meets_writePrintout (text : String) (fontSize : Option UInt32) (s : Session σ) :
    Meets (writePrintout text fontSize) s fun r es s' =>
      (∃ e, printout s.sandbox.patches text fontSize = .error e ∧ r = .error e ∧ es = [] ∧ s' = s) ∨
        ∃ d, printout s.sandbox.patches text fontSize = .ok d ∧
          Written printoutName d.bytes r es s' := by
  refine meets_get_bind ?_
  cases drawn : printout s.sandbox.patches text fontSize with
  | error e => exact meets_pure (.inl ⟨e, rfl, rfl, rfl, rfl⟩)
  | ok d => exact (meets_writeDocument printoutName d s).mono fun _ _ _ _ h => .inr ⟨d, rfl, h⟩

theorem meets_resolve (c : Context) (pdfs : List String) (printed : String)
    (options : ResolveOptions) (s : Session σ) :
    Meets (resolve interpreter c pdfs printed options) s (Resolved c pdfs printed options s) := by
  unfold resolve
  split_ifs with found spoken calls
  · exact meets_pure (.saved (by simpa using found))
  · have silent : pdfs = [] := by simpa using found
    refine (meets_writePrintout printed options.fontSize s).bind fun r es s₁ _ h => ?_
    rcases h with ⟨e, drawn, rfl, rfl, rfl⟩ | ⟨d, drawn, written⟩
    · exact meets_pure (.undrawn silent (by simpa using spoken) drawn)
    · cases written with
      | kept holds => exact meets_pure (.typeset silent (by simpa using spoken) drawn (.kept holds))
      | refused e =>
        exact meets_pure (.unwritten silent (by simpa using spoken) drawn (.refused e))
  · exact meets_autoInvoke interpreter c s (by simpa using found) (by simpa using spoken) calls
  · exact meets_pure (.noOutput (by simpa using found) (by simpa using spoken)
      (Bool.eq_false_iff.2 calls))

end Conversion

/-! ## What belongs to running a script -/

/-- Whether the entry belongs to running a script or a function of it: it tells of a call of the
interpreter, of what the script does, or of a listing by the request. -/
def Entry.ofRun : Entry → Bool
  | called _ | answered _ | accessed .request .list _ => true
  | e => e.byScript

theorem Entry.ofRun_of_byScript {e : Entry} (h : e.byScript) : e.ofRun := by
  unfold ofRun
  split
  · rfl
  · rfl
  · rfl
  · exact h

theorem Calls.ofRun {limit : Nat} {x : Exchange} {es : List Entry} (h : Calls limit x es) :
    ∀ e ∈ es, e.ofRun :=
  h.forall_mem rfl (fun _ => Entry.ofRun_of_byScript) rfl

theorem forall_mem_listed_ofRun {es : List Entry} (h : ∀ e ∈ es, e.ofRun) (ok : Bool) :
    ∀ e ∈ es ++ [.accessed .request .list ok], e.ofRun :=
  List.forall_mem_append.2 ⟨h, List.forall_mem_singleton.2 rfl⟩

theorem Ran.ofRun {script : String} {c : Context} {limit : Nat} {s s' : Session σ}
    {result : RunResult × String × Context} {es : List Entry}
    (h : Ran script c limit s result es s') : ∀ e ∈ es, e.ofRun := by
  cases h with
  | timedOut calls => exact calls.ofRun
  | raised _ calls => exact calls.ofRun
  | unlisted _ calls => exact forall_mem_listed_ofRun calls.ofRun _
  | listed calls => exact forall_mem_listed_ofRun calls.ofRun _

theorem Tried.ofRun {deadline : Nat} {function : String} {args : List (Option String)}
    {s s' : Session σ} {result : Attempt × Context} {es : List Entry}
    (h : Tried deadline function args s result es s') : ∀ e ∈ es, e.ofRun := by
  induction h with
  | exhausted => exact List.forall_mem_nil _
  | timedOut calls => exact calls.ofRun
  | raised _ calls _ _ ih => exact List.forall_mem_append.2 ⟨calls.ofRun, ih⟩
  | unlisted calls => exact forall_mem_listed_ofRun calls.ofRun _
  | barren calls => exact forall_mem_listed_ofRun calls.ofRun _
  | produced calls => exact forall_mem_listed_ofRun calls.ofRun _

theorem TriedAll.ofRun {deadline : Nat} {functions : List String} {s s' : Session σ}
    {result : Attempt × Context} {es : List Entry}
    (h : TriedAll deadline functions s result es s') : ∀ e ∈ es, e.ofRun := by
  induction h with
  | exhausted => exact List.forall_mem_nil _
  | next tried _ _ ih => exact List.forall_mem_append.2 ⟨tried.ofRun, ih⟩
  | decided tried => exact tried.ofRun

/-- The search for something to deliver only calls functions; or it writes a printout, which it does
if there are no documents and something was printed. -/
theorem Resolved.ofRun_or {c : Context} {pdfs : List String} {printed : String}
    {options : ResolveOptions} {s s' : Session σ} {result : Resolution × Context}
    {es : List Entry} (h : Resolved c pdfs printed options s result es s') :
    (∀ e ∈ es, e.ofRun) ∨
      pdfs = [] ∧ isBlankText printed.toList = false ∧
        ∃ bytes ok, es = [.accessed .request (.write printoutName bytes) ok] := by
  cases h with
  | unwritten unsaved spoken _ written =>
    cases written with
    | refused e => exact .inr ⟨unsaved, spoken, _, _, rfl⟩
  | typeset unsaved spoken _ written =>
    cases written with
    | kept holds => exact .inr ⟨unsaved, spoken, _, _, rfl⟩
  | produced _ _ _ _ tried => exact .inl tried.ofRun
  | fruitless _ _ _ _ _ tried => exact .inl tried.ofRun
  | _ => exact .inl (List.forall_mem_nil _)

end ScriptPress
