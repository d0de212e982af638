import ScriptPress.Proofs.DiagnosisLine
import ScriptPress.Proofs.Opening

/-!
# Narrations

What a listener hears of a request that delivers is a word of a small grammar: the stages come in
their order, each over before anything else is told, and the last word names the output. A request
that fails never tells of an output.

## Main definitions

* `heard` — the events among entries.
* `Narrated` — the grammar, by its parts `Outset`, `Running`, `Closing` and `Reporting`.
* `Ends` — events end as an output does.

## Main statements

* `Narrated.begun`, `Narrated.ends` — what the words have in common.
* `Converted.narrated`, `Converted.unfinished` — what is heard of requests.
* `convert_narrated` — both, in terms of what a session has told.
-/

namespace ScriptPress

open Conversion

variable {σ : Type} {config : Config}

/-! ## What is heard -/

def Entry.event? : Entry → Option Event
  | told event => some event
  | _ => none

def heard (es : List Entry) : List Event := es.filterMap Entry.event?

/-- What is told of a stage: that it begins, and right behind that it is over. -/
def Stage.told (stage : Stage) : List Event := [.started stage, .completed stage]

@[simp] theorem heard_nil : heard [] = [] := rfl

@[simp] theorem heard_append (es es' : List Entry) : heard (es ++ es') = heard es ++ heard es' :=
  List.filterMap_append

@[simp] theorem heard_cons_told (event : Event) (es : List Entry) :
    heard (.told event :: es) = event :: heard es := rfl

@[simp] theorem heard_cons_accessed (actor : Actor) (access : Access) (ok : Bool)
    (es : List Entry) : heard (.accessed actor access ok :: es) = heard es := rfl

theorem Session.events_eq_heard (s : Session σ) : s.events = heard s.journal := by
  refine List.filterMap_congr fun e _ => ?_
  cases e <;> rfl

/-- Nothing is told while a stage goes on. -/
theorem heard_around {es : List Entry} (h : heard es = []) (stage : Stage) :
    heard (stage.around es) = stage.told := by
  simp [Stage.around, h, Stage.told]

/-- Running scripts tell listeners nothing. -/
theorem heard_of_ofRun {es : List Entry} (h : ∀ e ∈ es, e.ofRun) : heard es = [] := by
  refine List.filterMap_eq_nil_iff.2 fun e mem => ?_
  have ofRun := h e mem
  cases e with
  | told => cases ofRun
  | _ => rfl

theorem Resolved.heard {c : Context} {pdfs : List String} {printed : String}
    {options : ResolveOptions} {s s' : Session σ} {result : Resolution × Context}
    {es : List Entry} (h : Resolved c pdfs printed options s result es s') : heard es = [] := by
  rcases h.ofRun_or with ofRun | ⟨-, -, bytes, ok, rfl⟩
  · exact heard_of_ofRun ofRun
  · rfl

theorem Removals.heard {names : List String} {es : List Entry} (h : Removals names es) :
    heard es = [] := by
  induction h with
  | nil => rfl
  | cons _ _ ih => exact ih

/-! ## The grammar -/

/-- What is told until a script is to run, and whether it is a repaired one. -/
inductive Outset : Bool → List Event → Prop
  | plain : Outset false (Stage.normalize.told ++ Stage.diagnose.told)
  | unrepaired : Outset false (Stage.normalize.told ++ Stage.diagnose.told ++ Stage.autoFix.told)
  | repaired (d : Diagnosis) (script : String) :
      Outset true (Stage.normalize.told ++ Stage.diagnose.told ++
        (Stage.autoFix.told ++ [.fixProposed d script]))

/-- What is told of a delivered error report. -/
inductive Reporting (o : Output) : List Event → Prop
  | intro {d : Diagnosis} (fallback : o.outcome = .fallback) (diagnosis : o.diagnosis = some d) :
      Reporting o (Stage.fallback.told ++ [.fellBack d, .finished .fallback o.filename])

/-- What is told once something to deliver was searched for. -/
inductive Closing (o : Output) : List Event → Prop
  | delivered (other : o.outcome ≠ .fallback) : Closing o [.finished o.outcome o.filename]
  | reported {events : List Event} (reporting : Reporting o events) : Closing o events

/-- What is told from then on that a script is to run, or that there is none. -/
inductive Running (o : Output) : List Event → Prop
  | unrun {events : List Event} (reporting : Reporting o events) : Running o events
  | failed {events : List Event} (reporting : Reporting o events) :
      Running o (Stage.execute.told ++ events)
  | resolved {events : List Event} (closing : Closing o events) :
      Running o (Stage.execute.told ++ (Stage.resolve.told ++ events))

/-- What is told of a request that delivers an output. -/
inductive Narrated (o : Output) : List Event → Prop
  | intro {before behind : List Event} (outset : Outset o.stats.autoFixed before)
      (running : Running o behind) : Narrated o (before ++ behind)

/-! ## What the words have in common -/

namespace Event

def begun? : Event → Option Stage
  | started stage => some stage
  | _ => none

def report? : Event → Option Diagnosis
  | fellBack d => some d
  | _ => none

def isFinish : Event → Bool
  | finished _ _ => true
  | _ => false

/-- Whether an event neither belongs to the report nor ends the request. -/
def isEarly : Event → Bool
  | started stage => stage ≠ .fallback
  | completed _ | fixProposed _ _ => true
  | fellBack _ | finished _ _ => false

end Event

/-- Events end as an output does: they tell of a report exactly if it is one, and then of its
diagnosis, and last and only once that the request is over. -/
structure Ends (o : Output) (events : List Event) : Prop where
  fallback : .started .fallback ∈ events ↔ o.outcome = .fallback
  report : events.filterMap Event.report? =
    if o.outcome = .fallback then o.diagnosis.toList else []
  finish : ∃ front, events = front ++ [.finished o.outcome o.filename] ∧
    ∀ e ∈ front, e.isFinish = false

theorem Ends.append {o : Output} {before events : List Event} (h : Ends o events)
    (early : ∀ e ∈ before, e.isEarly) : Ends o (before ++ events) where
  fallback := by
    have absent : .started .fallback ∉ before := fun mem => by
      simpa [Event.isEarly] using early _ mem
    simp [absent, h.fallback]
  report := by
    have none : before.filterMap Event.report? = [] := by
      refine List.filterMap_eq_nil_iff.2 fun e mem => ?_
      have := early e mem
      cases e <;> first | rfl | cases this
    rw [List.filterMap_append, none, List.nil_append, h.report]
  finish := by
    obtain ⟨front, rfl, unfinished⟩ := h.finish
    refine ⟨before ++ front, (List.append_assoc _ _ _).symm, ?_⟩
    refine List.forall_mem_append.2 ⟨fun e mem => ?_, unfinished⟩
    have := early e mem
    cases e <;> first | rfl | cases this

theorem Stage.early_told {stage : Stage} (h : stage ≠ .fallback) :
    ∀ e ∈ stage.told, e.isEarly := by
  simp [Stage.told, Event.isEarly, h]

theorem Outset.early {fixed : Bool} {events : List Event} (h : Outset fixed events) :
    ∀ e ∈ events, e.isEarly := by
  cases h <;> simp [Stage.told, Event.isEarly]

section

variable {o : Output} {events : List Event}

theorem Reporting.ends (h : Reporting o events) : Ends o events := by
  cases h with
  | @intro d fallback diagnosis =>
    refine ⟨by simp [Stage.told, fallback], ?_, ?_⟩
    · simp [Stage.told, List.filterMap_cons, Event.report?, fallback, diagnosis]
    · exact ⟨Stage.fallback.told ++ [.fellBack d], by simp [fallback],
        by simp [Stage.told, Event.isFinish]⟩

theorem Closing.ends (h : Closing o events) : Ends o events := by
  cases h with
  | delivered other =>
    exact ⟨by simp [other], by simp [Event.report?, other], [], rfl, List.forall_mem_nil _⟩
  | reported reporting => exact reporting.ends

theorem Running.ends (h : Running o events) : Ends o events := by
  have execute : ∀ e ∈ Stage.execute.told, e.isEarly := Stage.early_told nofun
  have resolve : ∀ e ∈ Stage.resolve.told, e.isEarly := Stage.early_told nofun
  cases h with
  | unrun reporting => exact reporting.ends
  | failed reporting => exact reporting.ends.append execute
  | resolved closing => exact (closing.ends.append resolve).append execute

theorem Narrated.ends (h : Narrated o events) : Ends o events := by
  cases h with
  | intro outset running => exact running.ends.append outset.early

/-! ### Stages -/

theorem Reporting.begun (h : Reporting o events) :
    events.filterMap Event.begun? = [.fallback] := by
  cases h
  rfl

theorem Running.begun (h : Running o events) :
    (events.filterMap Event.begun?).Sublist [Stage.execute, .resolve, .fallback] := by
  cases h with
  | unrun reporting =>
    rw [reporting.begun]
    decide
  | failed reporting =>
    rw [List.filterMap_append, reporting.begun]
    decide
  | resolved closing =>
    rw [List.filterMap_append, List.filterMap_append]
    cases closing with
    | delivered => exact (List.sublist_append_left [Stage.execute, .resolve] [.fallback])
    | reported reporting =>
      rw [reporting.begun]
      exact List.Sublist.refl _

theorem Outset.begun {fixed : Bool} (h : Outset fixed events) :
    (events.filterMap Event.begun?).Sublist [Stage.normalize, .diagnose, .autoFix] := by
  cases h with
  | plain => exact List.sublist_append_left [Stage.normalize, .diagnose] [.autoFix]
  | unrepaired => exact List.Sublist.refl _
  | repaired => exact List.Sublist.refl _

/-- The stages come in their order, each at most once. -/
theorem Narrated.begun (h : Narrated o events) :
    (events.filterMap Event.begun?).Sublist Stage.all := by
  cases h with
  | intro outset running =>
    rw [List.filterMap_append]
    exact outset.begun.append running.begun

end

/-! ## What is heard of a request -/

theorem Reported.reporting {p : Progress} {d : Diagnosis} {s s' : Session σ} {o : Output}
    {es : List Entry} (h : Reported config p d s (.ok o) es s') : Reporting o (heard es) := by
  cases h
  exact .intro rfl rfl

theorem Delivered.closing {p : Progress} {delivery : Delivery} {s s' : Session σ} {o : Output}
    {es : List Entry} (h : Delivered config p delivery s (.ok o) es s')
    (other : delivery.outcome ≠ .fallback) : Closing o (heard es) := by
  cases h with
  | unread _ _ _ reported => exact .reported reported.reporting
  | delivered => exact .delivered other

theorem Performed.running {script : String} {s s' : Session σ} {o : Output} {es : List Entry}
    (h : Performed config script s (.ok o) es s') : Running o (heard es) := by
  cases h with
  | failed run _ reported =>
    rw [heard_append, heard_around (heard_of_ofRun run.ofRun)]
    exact .failed reported.reporting
  | returned byScript _ _ resolved _ closed =>
    rw [heard_append, heard_append, heard_around (heard_of_ofRun (ofRun_cleanRun byScript)),
      heard_around resolved.heard]
    cases closed with
    | delivered delivered => exact .resolved (delivered.closing resolved.line)
    | reported reported => exact .resolved (.reported reported.reporting)

theorem Opened.outset {source : String} {s : Session σ} {script : Option String} {p : Progress}
    {es : List Entry} (h : Opened config source s script p es) :
    Outset p.stats.autoFixed (heard es) := by
  have compiling (script : String) (failure : Option CompileFailure) :
      heard (compiling script failure) = [] := rfl
  cases h with
  | compiles _ _ removed =>
    simp only [heard_append, heard_cons_accessed, removed.heard, heard_around heard_nil,
      heard_around (compiling _ _), List.append_nil]
    exact .plain
  | fails _ _ removed mended =>
    simp only [heard_append, heard_cons_accessed, removed.heard, heard_around heard_nil,
      heard_around (compiling _ _), List.append_nil]
    cases mended with
    | off => exact .plain
    | unknown => exact .unrepaired
    | wrong => exact .unrepaired
  | repaired _ _ removed mended =>
    simp only [heard_append, heard_cons_accessed, removed.heard, heard_around heard_nil,
      heard_around (compiling _ _), List.append_nil]
    cases mended with
    | right => exact .repaired _ _

/-! ### What an output counts as repaired -/

theorem Reported.autoFixed {p : Progress} {d : Diagnosis} {s s' : Session σ} {o : Output}
    {es : List Entry} (h : Reported config p d s (.ok o) es s') :
    o.stats.autoFixed = p.stats.autoFixed := by
  cases h
  rfl

theorem Delivered.autoFixed {p : Progress} {delivery : Delivery} {s s' : Session σ} {o : Output}
    {es : List Entry} (h : Delivered config p delivery s (.ok o) es s') :
    o.stats.autoFixed = p.stats.autoFixed := by
  cases h with
  | unread _ _ _ reported => exact reported.autoFixed
  | delivered => rfl

theorem Conducted.autoFixed {p : Progress} {script : String} {s s' : Session σ} {o : Output}
    {es : List Entry} (h : Conducted config p script s (.ok o) es s') :
    o.stats.autoFixed = p.stats.autoFixed := by
  cases h with
  | failed _ _ _ reported => exact reported.autoFixed
  | unresolved _ _ _ _ _ _ reported => exact reported.autoFixed
  | resolved _ _ _ _ _ _ delivered => exact delivered.autoFixed

/-- What is heard of a request that delivers is a word of the grammar. -/
theorem Converted.narrated {source : String} {s s' : Session σ} {o : Output} {es : List Entry}
    (h : Converted config source s (.ok o) es s') : Narrated o (heard es) := by
  cases h.parted with
  | reported opened _ reported =>
    rw [heard_append]
    exact .intro (reported.autoFixed ▸ opened.outset) (.unrun reported.reporting)
  | conducted opened _ conducted =>
    rw [heard_append]
    exact .intro (conducted.autoFixed ▸ opened.outset) conducted.performed.running

/-! ### Requests that fail -/

theorem Reported.unfinished {p : Progress} {d : Diagnosis} {s s' : Session σ}
    {e : ConversionError} {es : List Entry} (h : Reported config p d s (.error e) es s') :
    ∀ event ∈ heard es, event.isFinish = false := by
  cases h <;> simp [Event.isFinish]

theorem Delivered.unfinished {p : Progress} {delivery : Delivery} {s s' : Session σ}
    {e : ConversionError} {es : List Entry}
    (h : Delivered config p delivery s (.error e) es s') :
    ∀ event ∈ heard es, event.isFinish = false := by
  cases h with
  | nothing => exact List.forall_mem_nil _
  | unread _ _ _ reported => exact reported.unfinished

theorem Stage.unfinished_told (stage : Stage) : ∀ event ∈ stage.told, event.isFinish = false := by
  simp [Stage.told, Event.isFinish]

theorem Closed.unfinished {p : Progress} {s s' : Session σ} {resolution : Resolution}
    {e : ConversionError} {es : List Entry} (h : Closed config p s resolution (.error e) es s') :
    ∀ event ∈ heard es, event.isFinish = false := by
  cases h with
  | delivered delivered => exact delivered.unfinished
  | reported reported => exact reported.unfinished
  | beyondClock => exact List.forall_mem_nil _

theorem Performed.unfinished {script : String} {s s' : Session σ} {e : ConversionError}
    {es : List Entry} (h : Performed config script s (.error e) es s') :
    ∀ event ∈ heard es, event.isFinish = false := by
  have execute := Stage.execute.unfinished_told
  have resolve := Stage.resolve.unfinished_told
  cases h with
  | failed run _ reported =>
    rw [heard_append, heard_around (heard_of_ofRun run.ofRun)]
    exact List.forall_mem_append.2 ⟨execute, reported.unfinished⟩
  | returned byScript _ _ resolved _ closed =>
    rw [heard_append, heard_append, heard_around (heard_of_ofRun (ofRun_cleanRun byScript)),
      heard_around resolved.heard]
    exact List.forall_mem_append.2
      ⟨execute, List.forall_mem_append.2 ⟨resolve, closed.unfinished⟩⟩

theorem Event.isFinish_of_isEarly {event : Event} (h : event.isEarly) : event.isFinish = false := by
  cases event <;> first | rfl | cases h

theorem Opened.unfinished {source : String} {s : Session σ} {script : Option String}
    {p : Progress} {es : List Entry} (h : Opened config source s script p es) :
    ∀ event ∈ heard es, event.isFinish = false :=
  fun _ mem => Event.isFinish_of_isEarly (h.outset.early _ mem)

/-- A request that fails does not tell that it is over. -/
theorem Converted.unfinished {source : String} {s s' : Session σ} {e : ConversionError}
    {es : List Entry} (h : Converted config source s (.error e) es s') :
    ∀ event ∈ heard es, event.isFinish = false := by
  cases h.parted with
  | unopened _ beginning =>
    rcases beginning with rfl | rfl <;> exact Stage.normalize.unfinished_told
  | reported opened _ reported =>
    rw [heard_append]
    exact List.forall_mem_append.2 ⟨opened.unfinished, reported.unfinished⟩
  | conducted opened _ conducted =>
    rw [heard_append]
    exact List.forall_mem_append.2 ⟨opened.unfinished, conducted.performed.unfinished⟩

/-! ## Sessions -/

/-- What a session tells during a request. If there is an output, then the events are a word of the
grammar: its stages come in their order, each at most once; it tells of a report exactly if the
output is one, and of its diagnosis alone; and last, and not before, it tells of the output. If
there is none, then nothing tells that the request is over. -/
theorem convert_narrated (interpreter : Interpreter σ) (config : Config) (source : String)
    (s : Session σ) :
    let request := convert interpreter config source s
    ∃ events, request.2.events = s.events ++ events ∧
      match request.1 with
      | .ok o =>
        Narrated o events ∧ (events.filterMap Event.begun?).Sublist Stage.all ∧ Ends o events
      | .error _ => ∀ event ∈ events, event.isFinish = false := by
  intro request
  obtain ⟨leads, converted⟩ := (meets_convert interpreter config source s).run
  refine ⟨heard (entries (convert interpreter config source) s), ?_, ?_⟩
  · rw [Session.events_eq_heard, Session.events_eq_heard, leads.journal, heard_append]
  · change Converted config source s request.1 _ _ at converted
    cases result : request.1 with
    | ok o =>
      rw [result] at converted
      exact ⟨converted.narrated, converted.narrated.begun, converted.narrated.ends⟩
    | error e =>
      rw [result] at converted
      exact converted.unfinished

end ScriptPress
