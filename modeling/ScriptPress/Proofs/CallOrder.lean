import ScriptPress.Proofs.CapturedOutput
import ScriptPress.Proofs.DefinedFunction
import ScriptPress.Proofs.FunctionTour

/-!
# The order of calls

Functions of a script are called after a run that returned, saved nothing and printed nothing that
can be seen, and then they are. They are called in the order in which the script defined them;
whatever they define meanwhile is not called.

## Main definitions

* `CallsDue` — when functions are called for a request, and which.
* `FunctionsDue` — when functions are to be called for a request.
* `Searched`, `Sought` — a run, and a request, of which functions are to be called.

## Main statements

* `Converted.callsDue`, `Converted.called_of_due` — the calls of a request: only these, and all
  that are due.
* `convert_calls` — the same for every request.
-/

namespace ScriptPress

open Conversion Text

variable {σ : Type} {config : Config} {source : String}

/-! ## Parts without a call -/

theorem Opened.uninvoked {s : Session σ} {script : Option String} {p : Progress}
    {es : List Entry} (h : Opened config source s script p es) : Uninvoked es := by
  obtain ⟨xs, tells, compiles⟩ := h.tells
  refine ⟨xs, tells, fun x mem => ?_⟩
  have compile := compiles x mem
  cases x with
  | invoke => cases compile
  | _ => rfl

theorem uninvoked_runEntries (script : String) {played behind : List Entry} (ended : Ended)
    (byScript : ∀ e ∈ played, e.byScript) (rest : Uninvoked behind) :
    Uninvoked (runEntries script played ended behind) := by
  have silent := Tells.byScript byScript
  have run : Tells (runEntries script played ended []) [.execute script script ended] :=
    ⟨by simp [runEntries, List.filterMap_cons, Entry.exchange?, silent.answered],
      by simp [runEntries, List.filterMap_cons, Entry.call?, silent.called, Exchange.call]⟩
  have only : Uninvoked (runEntries script played ended []) :=
    ⟨_, run, List.forall_mem_singleton.2 rfl⟩
  rw [← List.nil_append behind, ← runEntries_append]
  exact only.append rest

theorem uninvoked_cleanRun (script : String) {played : List Entry}
    (byScript : ∀ e ∈ played, e.byScript) : Uninvoked (cleanRun script played) :=
  uninvoked_runEntries script .returned byScript (.of_tells_nil ⟨rfl, rfl⟩)

theorem FailedRun.uninvoked {script : String} {es : List Entry} (h : FailedRun script es) :
    Uninvoked es := by
  cases h with
  | stopped byScript => exact uninvoked_runEntries script _ byScript (.of_tells_nil ⟨rfl, rfl⟩)
  | unlisted byScript => exact uninvoked_runEntries script _ byScript (.of_tells_nil ⟨rfl, rfl⟩)

theorem Closed.uninvoked {p : Progress} {s s' : Session σ} {resolution : Resolution}
    {result : Except ConversionError Output} {es : List Entry}
    (h : Closed config p s resolution result es s') : Uninvoked es := by
  cases h with
  | delivered delivered => exact .of_tells_nil delivered.tells
  | reported reported => exact .of_tells_nil reported.tells
  | beyondClock => exact .of_tells_nil ⟨rfl, rfl⟩

theorem listed_cleanRun {script : String} {played : List Entry}
    (byScript : ∀ e ∈ played, e.byScript) :
    ∀ e ∈ Stage.execute.around (cleanRun script played), e.isFailedListing = false := by
  have played := fun e mem => Entry.listed_of_byScript (byScript e mem)
  exact Stage.forall_mem_around.2
    ⟨rfl, forall_mem_runEntries rfl played rfl (List.forall_mem_singleton.2 rfl), rfl⟩

theorem Opened.listed {s : Session σ} {script : Option String} {p : Progress}
    {es : List Entry} (h : Opened config source s script p es) :
    ∀ e ∈ es, e.isFailedListing = false := by
  obtain ⟨removals, rest, rfl, removed, others⟩ := h.exists_removals
  refine List.forall_mem_append.2 ⟨?_, List.forall_mem_append.2 ⟨removed.listed, ?_⟩⟩
  · simp [Stage.around, Entry.isFailedListing]
  · intro e mem
    have other := others e mem
    cases e with
    | accessed => cases other
    | _ => rfl

/-! ## The calls of a request -/

/-- Functions are called for a request: after a run that returned, left no documents, printed
nothing that can be seen and called no functions of its own accord, where such calls are allowed.
They are called in the order of their first definitions in that run, and within the time limit; none
is left out unless the calls have to end. -/
inductive CallsDue (config : Config) (st : Store) (es : List Entry) (calls : List Invocation) : Prop
  | intro (script : String) (before played calling behind : List Entry) (left : List String)
      (split : es = before ++ Stage.execute.around (cleanRun script played) ++
        (Stage.resolve.around calling ++ behind))
      (byScript : ∀ e ∈ played, e.byScript)
      (earlier : ∀ e ∈ before, e.callsFunction = false)
      (later : ∀ e ∈ behind, e.callsFunction = false)
      (on : config.autoInvoke = true)
      (unsaved :
        (st.after (before ++ Stage.execute.around (cleanRun script played))).documents = [])
      (silent : isBlankText (spoken played).toList = true)
      (unrecorded : ∀ producer, .recorded producer ∉ played)
      (tour : Tour (firstDefinitions played) calls left)
      (complete : left = [] ∨ (∃ x ∈ calls, ¬x.Passed) ∨ ∃ e ∈ calling, e.isFailedListing = true)
      (passed : calls.Pairwise fun x _ => x.Passed)
      (intime : time calling ≤ config.timeoutMs)

namespace CallsDue

variable {st : Store} {es : List Entry} {calls : List Invocation}

theorem append {st₁ : Store} {es₀ : List Entry} (h : CallsDue config st₁ es calls)
    (undergoes : st.Undergoes es₀ st₁) (silent₀ : ∀ e ∈ es₀, e.callsFunction = false) :
    CallsDue config st (es₀ ++ es) calls := by
  cases h with
  | intro script before played calling behind left split byScript earlier later on unsaved silent
      unrecorded tour complete passed intime =>
    refine .intro script (es₀ ++ before) played calling behind left (by simp [split]) byScript
      (List.forall_mem_append.2 ⟨silent₀, earlier⟩) later on ?_ silent unrecorded tour complete
      passed intime
    rwa [List.append_assoc, Store.after_append, undergoes.after_eq]

theorem passed (h : CallsDue config st es calls) : calls.Pairwise fun x _ => x.Passed := by
  cases h
  assumption

theorem exists_tour (h : CallsDue config st es calls) :
    ∃ played left, Tour (firstDefinitions played) calls left := by
  cases h with
  | intro _ _ played _ _ left _ _ _ _ _ _ _ _ tour => exact ⟨played, left, tour⟩

theorem nodup (h : CallsDue config st es calls) :
    (calls.map fun x => (x.function, x.arg)).Nodup := by
  obtain ⟨played, left, tour⟩ := h.exists_tour
  exact tour.nodup (nodup_firstDefinitions played)

theorem own (h : CallsDue config st es calls) :
    ∀ x ∈ calls, x.function ≠ "__name__" ∧ x.function ≠ "__builtins__" := by
  obtain ⟨played, left, tour⟩ := h.exists_tour
  intro x mem
  have named := (mem_ownNames.1 (tour.function_mem x mem)).2
  exact Namespace.isInjected_eq_false_iff.1 named

end CallsDue

/-- The search for something to deliver calls functions only in one case. -/
theorem Resolved.tried_or {c : Context} {pdfs : List String} {printed : String}
    {options : ResolveOptions} {s s' : Session σ} {result : Resolution × Context}
    {es : List Entry} (h : Resolved c pdfs printed options s result es s') :
    Uninvoked es ∨ pdfs = [] ∧ isBlankText printed.toList = true ∧
      options.callsFunctions c = true ∧ ∃ deadline result,
        deadline? s.clock options.limit = some deadline ∧
        TriedAll deadline c.functions.functions s result es s' := by
  have none : Uninvoked [] := .of_tells_nil ⟨rfl, rfl⟩
  cases h with
  | unwritten _ _ _ written => cases written; exact .inl (.of_tells_nil ⟨rfl, rfl⟩)
  | typeset _ _ _ written => cases written; exact .inl (.of_tells_nil ⟨rfl, rfl⟩)
  | produced unsaved silent calls limit tried =>
    exact .inr ⟨unsaved, silent, calls, _, _, limit, tried⟩
  | fruitless unsaved silent calls limit _ tried =>
    exact .inr ⟨unsaved, silent, calls, _, _, limit, tried⟩
  | _ => exact .inl none

theorem autoInvoked_context (config : Config) (script : String) (sandbox : Sandbox) :
    (config.context script sandbox).autoInvoked = none := by
  unfold Config.context
  split_ifs <;> rfl

/-- All calls of functions are made while something to deliver is searched for. -/
theorem invocations_returned {script : String} {played es es' : List Entry} {s s' : Session σ}
    (byScript : ∀ e ∈ played, e.byScript)
    (leads : s.Leads (Stage.execute.around (cleanRun script played)) s') (behind : Uninvoked es') :
    invocations s.sandbox.store
        (Stage.execute.around (cleanRun script played) ++ (Stage.resolve.around es ++ es')) =
      invocations s'.sandbox.store es := by
  have run := (uninvoked_cleanRun script byScript).around .execute
  have told (st : Store) (event : Event) (es : List Entry) :
      invocations st (.told event :: es) = invocations st es := rfl
  rw [invocations_append, run.invocations_eq, List.nil_append, leads.store.after_eq,
    invocations_append, behind.invocations_eq, List.append_nil, Stage.around, told,
    invocations_append, told]
  exact List.append_nil _

theorem functions_context (config : Config) (script : String) (sandbox : Sandbox) :
    (config.context script sandbox).functions = .empty := by
  unfold Config.context
  split_ifs <;> rfl

section Captured

variable {script printed : String} {sandbox : Sandbox} {played : List Entry} {c : Context}

theorem Captured.functions (h : Captured (config.context script sandbox) played printed c) :
    c.functions.functions = firstDefinitions played := by
  rw [h.context]
  exact Context.functions_after (functions_context _ _ _) played

/-- Functions are called after a run if such calls are allowed, if the run has defined some, and if
none was called of its own accord. -/
theorem Captured.callsFunctions_iff
    (h : Captured (config.context script sandbox) played printed c) :
    config.resolveOptions.callsFunctions c = true ↔ config.autoInvoke = true ∧
      firstDefinitions played ≠ [] ∧ ∀ producer, .recorded producer ∉ played := by
  have uncalled : c.autoInvoked = none ↔ ∀ producer, .recorded producer ∉ played := by
    rw [h.context]
    exact ⟨Context.unrecorded_of_after, Context.autoInvoked_after (autoInvoked_context _ _ _)⟩
  rw [← uncalled, ← h.functions]
  simp [ResolveOptions.callsFunctions, Config.resolveOptions, Namespace.isEmpty, and_assoc]

end Captured

theorem deadline?_sub {clock limit deadline : Nat} (h : deadline? clock limit = some deadline) :
    deadline - clock = limit := by
  unfold deadline? at h
  split_ifs at h
  obtain rfl := Option.some.inj h
  omega

theorem Performed.callsDue {script : String} {s s' : Session σ}
    {result : Except ConversionError Output} {es : List Entry}
    (h : Performed config script s result es s') :
    Uninvoked es ∨ CallsDue config s.sandbox.store es (invocations s.sandbox.store es) := by
  cases h with
  | failed run _ reported =>
    exact .inl ((run.uninvoked.around _).append (.of_tells_nil reported.tells))
  | @returned _ played es es' printed c c' resolution s₁ s₂ _ _ byScript captured leads resolved
      leads₁ closed =>
    have run := (uninvoked_cleanRun script byScript).around .execute
    have behind := closed.uninvoked
    rcases resolved.tried_or with none | ⟨unsaved, silent, calls, deadline, attempt, limit, tried⟩
    · exact .inl (run.append ((none.around _).append behind))
    · right
      rw [captured.functions] at tried
      obtain ⟨on, -, unrecorded⟩ := captured.callsFunctions_iff.1 calls
      obtain ⟨left, tour, ended⟩ := tried.tour
      rw [invocations_returned byScript leads behind]
      refine .intro script [] played es es' left rfl byScript (List.forall_mem_nil _)
        behind.not_callsFunction on ?_ (captured.printed ▸ silent) unrecorded tour
        (ended.imp_right tried.orderly.halts) tried.orderly.passed ?_
      · rw [List.nil_append, leads.store.after_eq, unsaved]
      · exact tried.time_le.trans_eq (deadline?_sub limit)

theorem Performed.heeded {script : String} {s s' : Session σ}
    {result : Except ConversionError Output} {es : List Entry}
    (h : Performed config script s result es s') : Heeded es := by
  cases h with
  | failed run _ reported =>
    have none := (run.uninvoked.around .execute).append (.of_tells_nil reported.tells)
    exact .of_silent none.not_callsFunction
  | @returned _ _ es _ _ _ _ _ _ _ _ _ byScript _ _ resolved _ closed =>
    have searched : Heeded es := by
      rcases resolved.tried_or with none | ⟨-, -, -, _, _, -, tried⟩
      · exact .of_silent none.not_callsFunction
      · exact tried.orderly.heeded
    have behind := closed.uninvoked.not_callsFunction
    exact ((searched.around _).append_silent behind).append_listed (listed_cleanRun byScript)

/-! ## Calls that are due -/

/-- Functions are to be called for a request: a script has returned and was listed; it left no
documents, printed nothing that can be seen, defined functions and called none of its own accord,
and such calls are allowed. -/
inductive FunctionsDue (config : Config) (st : Store) (es : List Entry) : Prop
  | intro (script : String) (before played behind : List Entry)
      (split : es = before ++ (Stage.execute.around (cleanRun script played) ++ behind))
      (byScript : ∀ e ∈ played, e.byScript)
      (on : config.autoInvoke = true)
      (unsaved :
        (st.after (before ++ Stage.execute.around (cleanRun script played))).documents = [])
      (silent : isBlankText (spoken played).toList = true)
      (unrecorded : ∀ producer, .recorded producer ∉ played)
      (defined : firstDefinitions played ≠ [])

/-- As one run begins at most, none does before a run that is there. -/
theorem idle_of_countP_le {before behind : List Entry} {script : String} {played : List Entry}
    (once : (before ++ (Stage.execute.around (cleanRun script played) ++ behind)).countP
      Entry.beginsRun ≤ 1) : ∀ e ∈ before, e.beginsRun = false := by
  have begun : 1 ≤ (Stage.execute.around (cleanRun script played)).countP Entry.beginsRun :=
    List.countP_pos_iff.2 ⟨.called (.execute script script), by simp [Stage.around, cleanRun], rfl⟩
  rw [List.countP_append, List.countP_append] at once
  have none : before.countP Entry.beginsRun = 0 := by omega
  exact fun e mem => Bool.eq_false_iff.2 (List.countP_eq_zero.1 none e mem)

/-- Where functions are to be called, the search for something to deliver does so if the clock can
tell the deadline of the calls. -/
theorem Resolved.tried_of_calls {c c' : Context} {printed : String} {options : ResolveOptions}
    {s s' : Session σ} {resolution : Resolution} {es : List Entry}
    (h : Resolved c [] printed options s (resolution, c') es s')
    (silent : isBlankText printed.toList = true) (calls : options.callsFunctions c = true) :
    deadline? s.clock options.limit = none ∧ resolution = .beyondClock ∨
      ∃ deadline result, deadline? s.clock options.limit = some deadline ∧
        resolution ≠ .beyondClock ∧ TriedAll deadline c.functions.functions s result es s' := by
  cases h with
  | saved found => exact absurd rfl found
  | undrawn _ spoken => simp [silent] at spoken
  | unwritten _ spoken => simp [silent] at spoken
  | typeset _ spoken => simp [silent] at spoken
  | beyondClock _ _ _ limit => exact .inl ⟨limit, rfl⟩
  | produced _ _ _ limit tried => exact .inr ⟨_, _, limit, nofun, tried⟩
  | fruitless _ _ _ limit _ tried => exact .inr ⟨_, _, limit, nofun, tried⟩
  | noOutput _ _ none => simp [calls] at none

/-- Functions are to be called after a run: it returned and was listed, left no documents and printed
nothing that can be seen; `s₁` is the session as the search for something to deliver begins. -/
inductive Searched (config : Config) (script : String) (s s₁ : Session σ) :
    Except ConversionError Output → List Entry → Prop
  | intro {p : Progress} {played es es' : List Entry} {printed : String} {c c' : Context}
      {resolution : Resolution} {s₂ s' : Session σ} {result : Except ConversionError Output}
      (byScript : ∀ e ∈ played, e.byScript)
      (captured : Captured (config.context script s.sandbox) played printed c)
      (leads : s.Leads (Stage.execute.around (cleanRun script played)) s₁)
      (unsaved : s₁.sandbox.store.documents = [])
      (silent : isBlankText printed.toList = true)
      (calls : config.resolveOptions.callsFunctions c = true)
      (resolved : Resolved c [] printed config.resolveOptions (s₁.enter .resolve) (resolution, c')
        es s₂)
      (closed : Closed config p (s₂.leave .resolve) resolution result es' s') :
      Searched config script s s₁ result
        (Stage.execute.around (cleanRun script played) ++ (Stage.resolve.around es ++ es'))

/-- Where functions are due, it is their run that the script comes to. -/
theorem Performed.searched_of_due {script : String} {s s' : Session σ} {st : Store}
    {result : Except ConversionError Output} {es₀ es : List Entry}
    (h : Performed config script s result es s') (undergoes : st.Undergoes es₀ s.sandbox.store)
    (idle : ∀ e ∈ es₀, e.beginsRun = false) (once : (es₀ ++ es).countP Entry.beginsRun ≤ 1)
    (due : FunctionsDue config st (es₀ ++ es)) : ∃ s₁, Searched config script s s₁ result es := by
  cases due with
  | intro script' before played behind split byScript on unsaved silent unrecorded defined =>
    rw [split] at once
    have idle' := idle_of_countP_le once
    cases h with
    | failed run _ _ =>
      -- A run that failed did not return, or was not listed.
      cases run with
      | stopped byScript' other =>
        obtain ⟨-, -, -, returned, -⟩ :=
          around_runEntries_unique split idle idle' byScript' byScript
        exact absurd returned other
      | unlisted byScript' =>
        obtain ⟨-, -, -, -, listed⟩ :=
          around_runEntries_unique split idle idle' byScript' byScript
        simp at listed
    | @returned _ played' es es' printed c c' resolution s₁ s₂ _ _ byScript' captured leads resolved
        leads₁ closed =>
      obtain ⟨rfl, rfl, rfl, -, -⟩ :=
        around_runEntries_unique split idle idle' byScript' byScript
      rw [Store.after_append, undergoes.after_eq, leads.store.after_eq] at unsaved
      rw [unsaved] at resolved
      exact ⟨s₁, .intro byScript' captured leads unsaved (captured.printed ▸ silent)
        (captured.callsFunctions_iff.2 ⟨on, defined, unrecorded⟩) resolved closed⟩

theorem Searched.called {script : String} {s s₁ : Session σ}
    {result : Except ConversionError Output} {es : List Entry}
    (h : Searched config script s s₁ result es) :
    invocations s.sandbox.store es ≠ [] ∨ result = .error .beyondClock := by
  cases h with
  | intro byScript captured leads unsaved silent calls resolved closed =>
    obtain ⟨-, defined, -⟩ := captured.callsFunctions_iff.1 calls
    rcases resolved.tried_of_calls silent calls with ⟨-, rfl⟩ | ⟨deadline, attempt, -, -, tried⟩
    · cases closed
      exact .inr rfl
    · rw [captured.functions] at tried
      rw [invocations_returned byScript leads closed.uninvoked]
      exact .inl (tried.ne_nil defined)

/-- Functions are called for a request only where that is due, and never behind a failed listing. -/
theorem Converted.callsDue {s s' : Session σ} {result : Except ConversionError Output}
    {es : List Entry} (h : Converted config source s result es s') :
    (Uninvoked es ∨ CallsDue config s.sandbox.store es (invocations s.sandbox.store es)) ∧
      Heeded es := by
  cases h.parted with
  | unopened e beginning =>
    have none : Uninvoked es := by
      rcases beginning with rfl | rfl <;> exact .of_tells_nil ⟨rfl, rfl⟩
    exact ⟨.inl none, .of_silent none.not_callsFunction⟩
  | reported opened _ reported =>
    have none := opened.uninvoked.append (.of_tells_nil reported.tells)
    exact ⟨.inl none, .of_silent none.not_callsFunction⟩
  | conducted opened leads conducted =>
    have performed := conducted.performed
    refine ⟨?_, performed.heeded.append_listed opened.listed⟩
    rcases performed.callsDue with none | due
    · exact .inl (opened.uninvoked.append none)
    · right
      rw [invocations_append, opened.uninvoked.invocations_eq, List.nil_append,
        leads.store.after_eq]
      exact due.append leads.store opened.uninvoked.not_callsFunction

theorem FunctionsDue.not_idle {st : Store} {es : List Entry} (due : FunctionsDue config st es) :
    ¬∀ e ∈ es, e.beginsRun = false := by
  cases due with
  | intro script before played behind split =>
    have begun : .called (.execute script script) ∈ es := by
      simp [split, Stage.around, cleanRun]
    intro idle
    have none := idle _ begun
    simp [Entry.beginsRun, Entry.call?, InterpreterCall.isExecute] at none

/-- Functions are to be called for a request; `s₂` is the session as the search for something to
deliver begins. -/
inductive Sought (config : Config) (source : String) (s s₂ : Session σ)
    (result : Except ConversionError Output) : List Entry → Prop
  | intro {p : Progress} {script : String} {before behind : List Entry} {s₁ : Session σ}
      (opened : Opened config source s (some script) p before) (leads : s.Leads before s₁)
      (searched : Searched config script s₁ s₂ result behind) :
      Sought config source s s₂ result (before ++ behind)

theorem Converted.sought_of_due {s s' : Session σ} {result : Except ConversionError Output}
    {es : List Entry} (h : Converted config source s result es s')
    (due : FunctionsDue config s.sandbox.store es) :
    ∃ s₂, Sought config source s s₂ result es := by
  have once := h.countP_beginsRun_le
  cases h.parted with
  | unopened e beginning =>
    refine absurd ?_ due.not_idle
    rcases beginning with rfl | rfl <;> simp [Stage.around, Entry.beginsRun, Entry.call?]
  | reported opened _ reported =>
    exact absurd (List.forall_mem_append.2
      ⟨opened.idle, reported.tells.idle (List.forall_mem_nil _)⟩) due.not_idle
  | conducted opened leads conducted =>
    obtain ⟨s₂, searched⟩ := conducted.performed.searched_of_due leads.store opened.idle once due
    exact ⟨s₂, .intro opened leads searched⟩

theorem Sought.called {s s₂ : Session σ} {result : Except ConversionError Output}
    {es : List Entry} (h : Sought config source s s₂ result es) :
    invocations s.sandbox.store es ≠ [] ∨ result = .error .beyondClock := by
  cases h with
  | intro opened leads searched =>
    rw [invocations_append, opened.uninvoked.invocations_eq, List.nil_append,
      leads.store.after_eq]
    exact searched.called

/-- Where functions are due they are called, unless the time limit is beyond the clock. -/
theorem Converted.called_of_due {s s' : Session σ} {result : Except ConversionError Output}
    {es : List Entry} (h : Converted config source s result es s')
    (due : FunctionsDue config s.sandbox.store es) :
    invocations s.sandbox.store es ≠ [] ∨ result = .error .beyondClock := by
  obtain ⟨s₂, sought⟩ := h.sought_of_due due
  exact sought.called

/-- What has been called for a request. Functions are called only where calls are due: then they
have their turns in the order of their first definitions. Where they are due they are called, unless
the time limit is beyond the clock. None is called twice with the same argument, and none of the
names that stand in every namespace is. There is no call behind one that was out of time or that
returned and left documents, and none behind a failed listing. -/
theorem convert_calls (interpreter : Interpreter σ) (config : Config) (source : String)
    (s : Session σ) :
    let es := entries (convert interpreter config source) s
    let calls := invocations s.sandbox.store es
    (es.filterMap Entry.call?).filter (·.isInvoke) = calls.map Invocation.call ∧
      (calls = [] ∨ CallsDue config s.sandbox.store es calls) ∧
      (FunctionsDue config s.sandbox.store es →
        calls ≠ [] ∨ (convert interpreter config source s).1 = .error .beyondClock) ∧
      (calls.map fun x => (x.function, x.arg)).Nodup ∧
      (∀ x ∈ calls, x.function ≠ "__name__" ∧ x.function ≠ "__builtins__") ∧
      calls.Pairwise (fun x _ => x.Passed) ∧
      es.Pairwise fun e e' => e.isFailedListing = true → e'.callsFunction = false := by
  intro es calls
  obtain ⟨-, converted⟩ := (meets_convert interpreter config source s).run
  obtain ⟨xs, tells, -⟩ := converted.tells
  obtain ⟨due, heeded⟩ := converted.callsDue
  refine ⟨tells.calls_eq _, due.imp_left fun none => none.invocations_eq _,
    converted.called_of_due, ?_⟩
  rcases due with none | due
  · have none : calls = [] := none.invocations_eq _
    exact ⟨by simp [none], by simp [none], by simp [none], heeded⟩
  · exact ⟨due.nodup, due.own, due.passed, heeded⟩

/-- An interpreter whose scripts define `f` and `g`. Its `f` defines `h` and raises, its `g` leaves a
document. -/
def Interpreter.eager : Interpreter Unit where
  name := "eager"
  compile _ state := (none, state)
  execute _ _ state := .define "__name__" <| .define "f" <| .define "g" <| .define "f" <|
    .print "\n" <| .finish (.ok ()) state
  invoke function _ _ state :=
    if function = "g" then .write "a.pdf" [65] fun _ => .finish (.ok ()) state
    else .define "h" (.finish (.error ⟨"ValueError", "", []⟩) state)

/-- Both functions are called in their order, the first of them twice. -/
theorem eager_calls :
    let es := entries (convert .eager .default "pass") emptySession
    let calls := invocations emptySession.sandbox.store es
    FunctionsDue .default emptySession.sandbox.store es ∧
      calls.map (fun x => (x.function, x.arg)) =
        [("f", none), ("f", some "output.pdf"), ("g", none)] ∧
      CallsDue .default emptySession.sandbox.store es calls := by
  intro es calls
  have due : FunctionsDue .default emptySession.sandbox.store es := by
    let played : List Entry := [.defined "__name__", .defined "f", .defined "g", .defined "f",
      .printed "\n"]
    refine .intro "pass" (es.take 7) played (es.drop 17) ?_ ?_ rfl ?_ ?_ (by simp [played]) ?_
    all_goals decide +kernel
  have delivered : (convert .eager .default "pass" emptySession).1.toOption.isSome := by
    decide +kernel
  obtain ⟨-, when, called, -⟩ := convert_calls .eager .default "pass" emptySession
  have some : calls ≠ [] := (called due).resolve_right fun failed => by
    simp [failed, Except.toOption] at delivered
  exact ⟨due, by decide +kernel, when.resolve_left some⟩

end ScriptPress
