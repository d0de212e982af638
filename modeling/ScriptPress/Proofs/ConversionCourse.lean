import ScriptPress.Conversion.Basic
import ScriptPress.Proofs.DeliveryCourse

/-!
# Courses of a request

Every course that a request can take, from the script that it is given to the document that it
delivers: one relation for each of its parts, with the result, the entries and the session
afterwards of each course. Only what a clock shows is left open.

## Main definitions

* `Reported`, `Delivered` — the two ends of a request.
* `Conducted` — a script that compiles is run, and what comes of it is delivered.
* `Mended`, `Checked` — a script is compiled and repaired.
* `Converted` — a whole request.

## Main statements

* `Conversion.meets_convert` — there are no other courses.
-/

namespace ScriptPress

open Conversion Page

variable {σ : Type}

/-! ## Data of a request -/

def Config.script (config : Config) (source : String) : String :=
  (SourceBuffer.new source config.effectiveFontSize).script

def Config.context (config : Config) (script : String) (sandbox : Sandbox) : Context :=
  if config.autoInvoke then
    (Context.new script sandbox.patches sandbox.store.isRooted).allowAutoInvoke printoutName
  else Context.new script sandbox.patches sandbox.store.isRooted

def Config.resolveOptions (config : Config) : ResolveOptions where
  fontSize := config.effectiveFontSize
  autoInvoke := config.autoInvoke
  limit := config.timeoutMs

/-- The repair of the line that a diagnosis is about. -/
def Diagnosis.repair? (d : Diagnosis) (script : String) : Option String :=
  if d.kind.isCompile then d.line.bind (Repair.propose? script ·.toNat) else none

namespace Conversion.Progress

def initial (config : Config) (source : String) (start : Nat) (normalizeMs : UInt64) : Progress :=
  ⟨SourceBuffer.new source config.effectiveFontSize, start, none, "",
    { Stats.zero with normalizeMs := normalizeMs }⟩

variable (p : Progress)

def diagnosed (ms : UInt64) : Progress := { p with stats := { p.stats with diagnoseMs := ms } }

def mended (d : Diagnosis) (fixed : String) : Progress :=
  { p with
    repaired := some (fixed, d.withFix fixed)
    stats := { p.stats with autoFixed := true } }

def executed (printed : String) (ms : UInt64) : Progress :=
  { p with stdout := printed, stats := { p.stats with executeMs := ms } }

def resolved (ms : UInt64) : Progress := { p with stats := { p.stats with resolveMs := ms } }

def found (artifacts : List String) : Progress :=
  { p with stats := { p.stats with artifactsFound := artifacts.length } }

def report (d : Diagnosis) (patches : PatchSet) : Bytes :=
  (d.report patches p.buffer.text p.buffer.fontSize).bytes

/-- The error report as it is delivered. -/
def reportOutput (config : Config) (d : Diagnosis) (bytes : Bytes) (fallbackMs totalMs : UInt64) :
    Output where
  filename := filenameFor config reportName
  artifact := reportName
  bytes := bytes
  outcome := .fallback
  diagnosis := some d
  proposedFix := p.repaired.map (·.1)
  stdout := p.stdout
  stats := { p.stats with fallbackMs := fallbackMs, totalMs := totalMs }

/-- A document of the script as it is delivered. -/
def output (config : Config) (outcome : Outcome) (artifact : String) (bytes : Bytes)
    (totalMs : UInt64) : Output where
  filename := filenameFor config artifact
  artifact := artifact
  bytes := bytes
  outcome := outcome
  diagnosis := p.repaired.map (·.2)
  proposedFix := p.repaired.map (·.1)
  stdout := p.stdout
  stats := { p.stats with totalMs := totalMs }

end Conversion.Progress

/-! ## The courses -/

/-- The error report is written, read back and delivered. -/
inductive Reported (config : Config) (p : Progress) (d : Diagnosis) (s : Session σ) :
    Except ConversionError Output → List Entry → Session σ → Prop
  | unwritten {s' : Session σ} (e : StoreError) :
      Reported config p d s
        (.error (.outputWrite reportName (DrawError.storage reportName e.message).message))
        [.told (.started .fallback),
          .accessed .request (.write reportName (p.report d s.sandbox.patches)) false] s'
  | unread {s' : Session σ} (e : StoreError) :
      Reported config p d s (.error (.ofStore e))
        [.told (.started .fallback),
          .accessed .request (.write reportName (p.report d s.sandbox.patches)) true,
          .accessed .request (.read reportName) false] s'
  | delivered {s' : Session σ} (fallbackMs totalMs : UInt64)
      (holds : s'.sandbox.store.Holds reportName (p.report d s.sandbox.patches)) :
      Reported config p d s
        (.ok (p.reportOutput config d (p.report d s.sandbox.patches) fallbackMs totalMs))
        (Stage.fallback.around
            [.accessed .request (.write reportName (p.report d s.sandbox.patches)) true,
              .accessed .request (.read reportName) true] ++
          [.told (.fellBack d), .told (.finished .fallback (filenameFor config reportName))]) s'

/-- The first of the documents is read and delivered. -/
inductive Delivered (config : Config) (p : Progress) (delivery : Delivery) (s : Session σ) :
    Except ConversionError Output → List Entry → Session σ → Prop
  | nothing (absent : delivery.artifacts = []) :
      Delivered config p delivery s (.error (.internal "resolution returned no artifact")) [] s
  | unread {artifact : String} {artifacts : List String} {s₁ s' : Session σ} {es : List Entry}
      {result : Except ConversionError Output} (e : StoreError)
      (first : delivery.artifacts = artifact :: artifacts)
      (leads : s.Leads [.accessed .request (.read artifact) false] s₁)
      (reported : Reported config (p.found delivery.artifacts) (.system e.message) s₁ result es
        s') :
      Delivered config p delivery s result (.accessed .request (.read artifact) false :: es) s'
  | delivered {artifact : String} {artifacts : List String} {s' : Session σ} {bytes : Bytes}
      (totalMs : UInt64) (first : delivery.artifacts = artifact :: artifacts)
      (holds : s'.sandbox.store.Holds artifact bytes) :
      Delivered config p delivery s
        (.ok ((p.found delivery.artifacts).output config delivery.outcome artifact bytes totalMs))
        [.accessed .request (.read artifact) true,
          .told (.finished delivery.outcome (filenameFor config artifact))] s'

/-- A script that compiles is run, and what comes of it is delivered. -/
inductive Conducted (config : Config) (p : Progress) (script : String) (s : Session σ) :
    Except ConversionError Output → List Entry → Session σ → Prop
  | failed {d : Diagnosis} {printed : String} {c : Context} {es es' : List Entry}
      {s₁ s' : Session σ} {result : Except ConversionError Output} (executeMs : UInt64)
      (ran : Ran script (config.context script s.sandbox) config.timeoutMs (s.enter .execute)
        (.failure d, printed, c) es s₁)
      (leads : (s.enter .execute).Leads es s₁)
      (reported : Reported config (p.executed printed executeMs) d (s₁.leave .execute) result es'
        s') :
      Conducted config p script s result (Stage.execute.around es ++ es') s'
  | unresolved {pdfs : List String} {printed : String} {c c' : Context} {d : Diagnosis}
      {es es₁ es' : List Entry} {s₁ s₂ s' : Session σ} {result : Except ConversionError Output}
      (executeMs resolveMs : UInt64)
      (ran : Ran script (config.context script s.sandbox) config.timeoutMs (s.enter .execute)
        (.success pdfs, printed, c) es s₁)
      (leads : (s.enter .execute).Leads es s₁)
      (resolved : Resolved c pdfs printed config.resolveOptions
        ((s₁.leave .execute).enter .resolve) (.failed d, c') es₁ s₂)
      (leads₁ : ((s₁.leave .execute).enter .resolve).Leads es₁ s₂)
      (reported : Reported config ((p.executed printed executeMs).resolved resolveMs) d
        (s₂.leave .resolve) result es' s') :
      Conducted config p script s result
        (Stage.execute.around es ++ (Stage.resolve.around es₁ ++ es')) s'
  | resolved {pdfs : List String} {printed : String} {c c' : Context} {delivery : Delivery}
      {es es₁ es' : List Entry} {s₁ s₂ s' : Session σ} {result : Except ConversionError Output}
      (executeMs resolveMs : UInt64)
      (ran : Ran script (config.context script s.sandbox) config.timeoutMs (s.enter .execute)
        (.success pdfs, printed, c) es s₁)
      (leads : (s.enter .execute).Leads es s₁)
      (resolved : Resolved c pdfs printed config.resolveOptions
        ((s₁.leave .execute).enter .resolve) (.delivered delivery, c') es₁ s₂)
      (leads₁ : ((s₁.leave .execute).enter .resolve).Leads es₁ s₂)
      (delivered : Delivered config ((p.executed printed executeMs).resolved resolveMs) delivery
        (s₂.leave .resolve) result es' s') :
      Conducted config p script s result
        (Stage.execute.around es ++ (Stage.resolve.around es₁ ++ es')) s'
  | beyondClock {pdfs : List String} {printed : String} {c c' : Context} {es es₁ : List Entry}
      {s₁ s₂ : Session σ}
      (ran : Ran script (config.context script s.sandbox) config.timeoutMs (s.enter .execute)
        (.success pdfs, printed, c) es s₁)
      (leads : (s.enter .execute).Leads es s₁)
      (resolved : Resolved c pdfs printed config.resolveOptions
        ((s₁.leave .execute).enter .resolve) (.beyondClock, c') es₁ s₂) :
      Conducted config p script s (.error .beyondClock)
        (Stage.execute.around es ++ Stage.resolve.around es₁) (s₂.leave .resolve)

def compiling (script : String) (failure : Option CompileFailure) : List Entry :=
  [.called (.compile script), .answered (.compile script failure)]

/-- A script is repaired, if repairs are made and the repair compiles. -/
inductive Mended (config : Config) (script : String) (d : Diagnosis) :
    Option String → List Entry → Prop
  | off (off : config.autoFix = false) : Mended config script d none []
  | unknown (on : config.autoFix = true) (hopeless : d.repair? script = none) :
      Mended config script d none (Stage.autoFix.around [])
  | wrong {candidate : String} (failure : CompileFailure) (on : config.autoFix = true)
      (proposed : d.repair? script = some candidate) :
      Mended config script d none (Stage.autoFix.around (compiling candidate (some failure)))
  | right {candidate : String} (on : config.autoFix = true)
      (proposed : d.repair? script = some candidate) :
      Mended config script d (some candidate) (Stage.autoFix.around (compiling candidate none))

/-- A script is compiled, repaired if it does not compile, and run. -/
inductive Checked (config : Config) (p : Progress) (script : String) (s : Session σ) :
    Except ConversionError Output → List Entry → Session σ → Prop
  | compiles {s₁ s' : Session σ} {es : List Entry} {result : Except ConversionError Output}
      (diagnoseMs : UInt64) (leads : s.Leads (Stage.diagnose.around (compiling script none)) s₁)
      (conducted : Conducted config (p.diagnosed diagnoseMs) script s₁ result es s') :
      Checked config p script s result (Stage.diagnose.around (compiling script none) ++ es) s'
  | fails {s₁ s' : Session σ} {es es' : List Entry} {result : Except ConversionError Output}
      {failure : CompileFailure} (diagnoseMs : UInt64)
      (mended : Mended config script (.ofCompileFailure script failure) none es)
      (leads : s.Leads (Stage.diagnose.around (compiling script failure) ++ es) s₁)
      (reported : Reported config (p.diagnosed diagnoseMs) (.ofCompileFailure script failure) s₁
        result es' s') :
      Checked config p script s result
        (Stage.diagnose.around (compiling script failure) ++ es ++ es') s'
  | repaired {s₁ s' : Session σ} {es es' : List Entry} {result : Except ConversionError Output}
      {failure : CompileFailure} {fixed : String} (diagnoseMs : UInt64)
      (mended : Mended config script (.ofCompileFailure script failure) (some fixed) es)
      (leads : s.Leads (Stage.diagnose.around (compiling script failure) ++ es ++
        [.told (.fixProposed (.ofCompileFailure script failure) fixed)]) s₁)
      (conducted : Conducted config
        ((p.diagnosed diagnoseMs).mended (.ofCompileFailure script failure) fixed) fixed s₁ result
        es' s') :
      Checked config p script s result
        (Stage.diagnose.around (compiling script failure) ++ es ++
          [.told (.fixProposed (.ofCompileFailure script failure) fixed)] ++ es') s'

inductive Converted (config : Config) (source : String) (s : Session σ) :
    Except ConversionError Output → List Entry → Session σ → Prop
  | empty {s' : Session σ} (empty : config.script source = "") :
      Converted config source s (.error .emptySource) (Stage.normalize.around []) s'
  | unlisted {s' : Session σ} {e : StoreError} (full : config.script source ≠ "")
      (refused : s.sandbox.store.list.1 = .error e) :
      Converted config source s (.error (.ofStore e))
        (Stage.normalize.around [] ++ [.accessed .request .list false]) s'
  | cleaned {s₁ s' : Session σ} {removals es : List Entry} {result : Except ConversionError Output}
      (normalizeMs : UInt64) (full : config.script source ≠ "")
      (listed : s.sandbox.store.list.1.isOk)
      (removed : Removals s.sandbox.store.documents removals)
      (leads : s.Leads (Stage.normalize.around [] ++ .accessed .request .list true :: removals) s₁)
      (checked : Checked config (.initial config source s.clock normalizeMs) (config.script source)
        s₁ result es s')
      (leads₁ : s₁.Leads es s') :
      Converted config source s result
        (Stage.normalize.around [] ++ .accessed .request .list true :: removals ++ es) s'

/-! ## There are no others -/

namespace Conversion

variable (interpreter : Interpreter σ) (config : Config)

theorem meets_elapsed_bind {α : Type} {s : Session σ} {Q : α → List Entry → Session σ → Prop}
    {start : Nat} {f : UInt64 → Conversion σ α} (h : Meets (f (.ofNat (s.clock - start))) s Q) :
    Meets (elapsed start >>= f) s Q := h

theorem meets_writeReport (d : Diagnosis) (source : String) (fontSize : Option UInt32)
    (s : Session σ) :
    Meets (writeReport d source fontSize) s fun r es s' =>
      (∃ e : StoreError,
        r = .error (.outputWrite reportName (DrawError.storage reportName e.message).message) ∧
        es = [.accessed .request
          (.write reportName (d.report s.sandbox.patches source fontSize).bytes) false]) ∨
      r = .ok reportName ∧
        es = [.accessed .request
          (.write reportName (d.report s.sandbox.patches source fontSize).bytes) true] ∧
        s'.sandbox.store.Holds reportName (d.report s.sandbox.patches source fontSize).bytes := by
  refine meets_get_bind ((meets_writeDocument _ _ s).bind fun r es s₁ _ written => ?_)
  cases written with
  | kept holds => exact meets_pure (.inr ⟨rfl, rfl, holds⟩)
  | refused e => exact meets_pure (.inl ⟨e, rfl, rfl⟩)

theorem meets_deliverReport (p : Progress) (d : Diagnosis) (s : Session σ) :
    Meets (deliverReport config p d) s (Reported config p d s) := by
  refine meets_now_bind (meets_tell_bind ?_)
  refine (meets_writeReport d _ _ _).bind fun r es s₁ _ written => ?_
  rcases written with ⟨e, rfl, rfl⟩ | ⟨rfl, rfl, kept⟩
  · exact meets_pure (.unwritten e)
  · refine (meets_read reportName s₁).bind fun r es s₂ _ h => ?_
    obtain ⟨rfl, holds⟩ := h
    cases r with
    | error e => exact meets_pure (.unread e)
    | ok bytes =>
      obtain ⟨before, after⟩ := holds bytes rfl
      obtain rfl := kept.unique before
      refine meets_tell_bind (meets_elapsed_bind (meets_elapsed_bind ?_))
      exact meets_tell_bind (meets_tell_bind (meets_pure (.delivered _ _ after)))

theorem meets_deliver (p : Progress) (delivery : Delivery) (s : Session σ) :
    Meets (deliver config p delivery) s (Delivered config p delivery s) := by
  obtain ⟨outcome, artifacts⟩ := delivery
  cases artifacts with
  | nil => exact meets_pure (.nothing rfl)
  | cons artifact artifacts =>
    refine (meets_read artifact s).bind fun r es s₁ leads h => ?_
    obtain ⟨rfl, holds⟩ := h
    cases r with
    | error e =>
      exact (meets_deliverReport config _ _ s₁).mono fun r es s' _ reported =>
        .unread e rfl leads reported
    | ok bytes =>
      exact meets_elapsed_bind (meets_tell_bind (meets_pure (.delivered _ rfl (holds bytes rfl).2)))

theorem meets_runAndDeliver (p : Progress) (script : String) (s : Session σ) :
    Meets (runAndDeliver interpreter config p script) s (Conducted config p script s) := by
  have ran : Meets (do
      runScript interpreter script (← requestContext config script) config.timeoutMs)
      (s.enter .execute)
      (Ran script (config.context script s.sandbox) config.timeoutMs (s.enter .execute)) :=
    meets_runScript interpreter script (config.context script s.sandbox) _ _
  refine (meets_stage ran).bind fun b es s₁ _ h => ?_
  obtain ⟨⟨result, printed, c⟩, executeMs⟩ := b
  obtain ⟨es₁, s₁, leads, ran, rfl, rfl⟩ := h
  cases result with
  | failure d =>
    exact (meets_deliverReport config _ d _).mono fun r es' s' _ reported =>
      .failed executeMs ran leads reported
  | success pdfs =>
    have resolved := meets_resolve interpreter c pdfs printed config.resolveOptions
      ((s₁.leave .execute).enter .resolve)
    refine (meets_stage resolved).bind fun b es s₂ _ h => ?_
    obtain ⟨⟨resolution, c'⟩, resolveMs⟩ := b
    obtain ⟨es₂, s₂, leads₂, resolved, rfl, rfl⟩ := h
    cases resolution with
    | delivered delivery =>
      exact (meets_deliver config _ delivery _).mono fun r es' s' _ delivered =>
        .resolved executeMs resolveMs ran leads resolved leads₂ delivered
    | failed d =>
      exact (meets_deliverReport config _ d _).mono fun r es' s' _ reported =>
        .unresolved executeMs resolveMs ran leads resolved leads₂ reported
    | beyondClock =>
      exact meets_pure (by simpa using .beyondClock ran leads resolved)

theorem meets_repairScript (script : String) (d : Diagnosis) (s : Session σ)
    (on : config.autoFix = true) :
    Meets (repairScript interpreter script d) s fun r es _ =>
      Mended config script d r (Stage.autoFix.around es) := by
  have same : (if d.kind.isCompile then d.line.bind (Repair.propose? script ·.toNat) else none) =
      d.repair? script := rfl
  unfold repairScript
  rw [same]
  cases proposed : d.repair? script with
  | none => exact meets_pure (.unknown on proposed)
  | some candidate =>
    refine (meets_compile interpreter candidate s).bind fun failure es s₁ _ h => ?_
    obtain ⟨rfl, -⟩ := h
    cases failure with
    | none => exact meets_pure (.right on proposed)
    | some failure => exact meets_pure (.wrong failure on proposed)

theorem meets_diagnose (script : String) (s : Session σ) :
    Meets (diagnose interpreter script) s fun d es _ =>
      ∃ failure, d = failure.map (.ofCompileFailure script) ∧ es = compiling script failure := by
  refine (meets_compile interpreter script s).bind fun failure es s₁ _ h => ?_
  obtain ⟨rfl, -⟩ := h
  exact meets_pure ⟨failure, rfl, rfl⟩

theorem meets_mend (script : String) (d : Diagnosis) (s : Session σ) :
    Meets (mend interpreter config script d) s fun r es _ => Mended config script d r es := by
  unfold mend
  split_ifs with on
  · have repaired := meets_repairScript interpreter config script d (s.enter .autoFix) on
    refine (meets_stage repaired).bind fun b es s₁ _ h => ?_
    obtain ⟨es₁, s₁, -, mended, rfl, rfl⟩ := h
    exact meets_pure (by simpa using mended)
  · exact meets_pure (.off (Bool.eq_false_iff.2 on))

theorem meets_checkAndRun (p : Progress) (script : String) (s : Session σ) :
    Meets (checkAndRun interpreter config p script) s (Checked config p script s) := by
  refine (meets_stage (meets_diagnose interpreter script _)).bind fun b es s₁ leads h => ?_
  obtain ⟨d, diagnoseMs⟩ := b
  obtain ⟨es₁, s₁, -, ⟨failure, rfl, rfl⟩, rfl, rfl⟩ := h
  cases failure with
  | none =>
    exact (meets_runAndDeliver interpreter config _ script _).mono fun r es s' _ conducted =>
      .compiles diagnoseMs leads conducted
  | some failure =>
    refine (meets_mend interpreter config script _ _).bind fun r es s₂ leads₂ mended => ?_
    cases r with
    | none =>
      refine (meets_deliverReport config _ _ s₂).mono fun r es' s' _ reported => ?_
      rw [← List.append_assoc]
      exact .fails diagnoseMs mended (leads.trans leads₂) reported
    | some fixed =>
      have told : s₂.Leads [.told (.fixProposed (.ofCompileFailure script failure) fixed)]
          (s₂.note (.told (.fixProposed (.ofCompileFailure script failure) fixed))) :=
        s₂.leads_note trivial rfl rfl
      refine meets_tell_bind ((meets_runAndDeliver interpreter config _ fixed _).mono
        fun r es' s' _ conducted => ?_)
      have checked := Checked.repaired diagnoseMs mended ((leads.trans leads₂).trans told) conducted
      simpa using checked

theorem meets_prepare (source : String) (s : Session σ) :
    Meets (prepare config source) s fun r es s' =>
      (∃ ms, r = (config.script source, .initial config source s.clock ms)) ∧
        es = Stage.normalize.around [] ∧ s'.sandbox = s.sandbox := by
  have normalized : Meets (pure (config.script source)) (s.enter .normalize) fun script es s' =>
      script = config.script source ∧ es = [] ∧ s'.sandbox = s.sandbox :=
    meets_pure ⟨rfl, rfl, rfl⟩
  refine meets_now_bind ((meets_stage normalized).bind fun b es s₁ _ h => ?_)
  obtain ⟨script, normalizeMs⟩ := b
  obtain ⟨es₁, s₁, -, ⟨rfl, rfl, still⟩, rfl, rfl⟩ := h
  exact meets_pure ⟨⟨normalizeMs, rfl⟩, rfl, still⟩

theorem meets_convert (source : String) (s : Session σ) :
    Meets (convert interpreter config source) s (Converted config source s) := by
  refine (meets_prepare config source s).bind fun b es s₁ leads h => ?_
  obtain ⟨⟨normalizeMs, rfl⟩, rfl, still⟩ := h
  change Meets (if (config.script source).isEmpty then _ else _) s₁ _
  split_ifs with empty
  · exact meets_pure (by simpa using .empty (String.isEmpty_iff.1 empty))
  · have full : config.script source ≠ "" := fun h => empty (String.isEmpty_iff.2 h)
    refine (meets_removePdfs s₁).bind fun r es s₂ leads₂ removed => ?_
    cases r with
    | error e =>
      obtain ⟨rfl, refused⟩ := removed
      exact meets_pure (by simpa using .unlisted full (still ▸ refused))
    | ok count =>
      obtain ⟨listed, removals, removed, rfl⟩ := removed
      rw [still] at listed removed
      refine (meets_checkAndRun interpreter config _ _ s₂).mono fun r es s' leads₃ checked => ?_
      rw [← List.append_assoc]
      exact .cleaned normalizeMs full listed removed (leads.trans leads₂) checked leads₃

end Conversion

end ScriptPress
