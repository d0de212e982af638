import ScriptPress.Proofs.ConsistentOutput

/-!
# Checks and requests agree

Where the interpreter's compile answers depend on the script alone, what a check finds out is a
function of the script (`Config.verdict?`), and a request does what the verdict says: it runs the
script, runs the repaired script, or delivers the report.

## Main definitions

* `Config.verdict?` — what a check says about a script.
* `Answered` — the compile answers that a journal tells of depend on the script alone.
* `executed` — the scripts that were executed.
* `Obeys` — what a request does on a verdict.

## Main statements

* `meets_check_verdict` — a check gives the verdict.
* `meets_convert_answered` — a request compiles nothing that is answered in another way.
* `Checked.obeys` — a request does what the verdict says.
* `check_agrees_with_convert` — checks and requests agree.
-/

namespace ScriptPress

open Conversion

variable {σ : Type} {config : Config} {answer : String → Option CompileFailure}

/-! ## The verdict -/

/-- The repair of a script that does not compile, if repairs are made and this one compiles. -/
def Config.repair? (config : Config) (answer : String → Option CompileFailure) (script : String)
    (failure : CompileFailure) : Option String :=
  if config.autoFix then (failure.repair? script).filter fun fixed => (answer fixed).isNone
  else none

/-- What is said about a script that does not compile: why, and the repair if there is one. -/
def Config.diagnosis (config : Config) (answer : String → Option CompileFailure) (script : String)
    (failure : CompileFailure) : Diagnosis :=
  match config.repair? answer script failure with
  | some fixed => (Diagnosis.ofCompileFailure script failure).withFix fixed
  | none => .ofCompileFailure script failure

/-- What a check says about a script; nothing if it compiles. -/
def Config.verdict? (config : Config) (answer : String → Option CompileFailure) (script : String) :
    Option Diagnosis :=
  (answer script).map (config.diagnosis answer script)

theorem proposedFix_diagnosis (config : Config) (script : String) (failure : CompileFailure) :
    (config.diagnosis answer script failure).proposedFix =
      config.repair? answer script failure := by
  unfold Config.diagnosis
  cases config.repair? answer script failure with
  | some fixed => rfl
  | none => exact proposedFix_ofCompileFailure script failure

/-! ## Compile answers -/

/-- The compile answers of an interpreter depend on the script alone. -/
def Interpreter.AnswersBy (interpreter : Interpreter σ)
    (answer : String → Option CompileFailure) : Prop :=
  ∀ script state, (interpreter.compile script state).1 = answer script

/-- Whatever was compiled got the answer that its script has. -/
def Answered (answer : String → Option CompileFailure) (es : List Entry) : Prop :=
  ∀ script failure, .answered (.compile script failure) ∈ es → failure = answer script

namespace Answered

variable {es es' : List Entry}

theorem append_iff : Answered answer (es ++ es') ↔ Answered answer es ∧ Answered answer es' := by
  simp [Answered, or_imp, forall_and]

theorem around_iff {stage : Stage} : Answered answer (stage.around es) ↔ Answered answer es := by
  simp [Answered, Stage.around]

theorem compiling_iff {script : String} {failure : Option CompileFailure} :
    Answered answer (compiling script failure) ↔ failure = answer script := by
  simp [Answered, compiling]

/-- Entries that tell of no compilation. -/
theorem of_tells {xs : List Exchange} (h : Tells es xs) (none : xs.filter Exchange.isCompile = []) :
    Answered answer es := by
  intro script failure mem
  have told : .compile script failure ∈ xs := by
    rw [← h.answered]
    exact List.mem_filterMap.2 ⟨_, mem, rfl⟩
  simpa [Exchange.isCompile] using List.filter_eq_nil_iff.1 none _ told

end Answered

theorem Reported.answered {p : Progress} {d : Diagnosis} {s s' : Session σ}
    {result : Except ConversionError Output} {es : List Entry}
    (h : Reported config p d s result es s') : Answered answer es :=
  .of_tells h.tells rfl

theorem Conducted.answered {p : Progress} {script : String} {s s' : Session σ}
    {result : Except ConversionError Output} {es : List Entry}
    (h : Conducted config p script s result es s') : Answered answer es := by
  obtain ⟨xs, tells, performed⟩ := h.performance
  exact .of_tells tells performed.filter_isCompile

section

variable {interpreter : Interpreter σ} (answers : interpreter.AnswersBy answer)

include answers

theorem meets_compile_answered (script : String) (s : Session σ) :
    Meets (compile interpreter script) s fun failure es _ =>
      failure = answer script ∧ Answered answer es := by
  obtain ⟨es, leads, rfl, -⟩ := meets_compile interpreter script s
  have failure : (compile interpreter script s).1 = answer script := answers script s.state
  exact ⟨_, leads, failure, Answered.compiling_iff.2 failure⟩

theorem meets_diagnose_answered (script : String) (s : Session σ) :
    Meets (diagnose interpreter script) s fun d es _ =>
      d = (answer script).map (.ofCompileFailure script) ∧ Answered answer es := by
  refine (meets_compile_answered answers script s).bind fun failure es s₁ _ h => ?_
  obtain ⟨rfl, answered⟩ := h
  exact meets_pure ⟨rfl, by simpa using answered⟩

theorem meets_repairScript_answered (script : String) (failure : CompileFailure) (s : Session σ) :
    Meets (repairScript interpreter script (.ofCompileFailure script failure)) s fun fixed es _ =>
      (fixed = (failure.repair? script).filter fun fixed => (answer fixed).isNone) ∧
        Answered answer es := by
  have proposed : (if (Diagnosis.ofCompileFailure script failure).kind.isCompile then
      (Diagnosis.ofCompileFailure script failure).line.bind (Repair.propose? script ·.toNat)
      else none) = failure.repair? script :=
    repair?_ofCompileFailure script failure
  unfold repairScript
  rw [proposed]
  cases failure.repair? script with
  | none => exact meets_pure ⟨rfl, by simp [Answered]⟩
  | some candidate =>
    refine (meets_compile_answered answers candidate s).bind fun again es s₁ _ h => ?_
    obtain ⟨rfl, answered⟩ := h
    cases again : answer candidate with
    | none => exact meets_pure ⟨by rw [Option.filter_some, again]; rfl, by rwa [List.append_nil]⟩
    | some _ => exact meets_pure ⟨by rw [Option.filter_some, again]; rfl, by rwa [List.append_nil]⟩

/-- A check gives the verdict. -/
theorem meets_check_verdict (config : Config) (source : String) (s : Session σ) :
    Meets (check interpreter config source) s fun result _ _ =>
      result = if config.script source = "" then .error .emptySource
        else .ok (config.verdict? answer (config.script source)) := by
  unfold check
  change Meets (if (config.script source).isEmpty then _ else
    diagnose interpreter (config.script source) >>= _) s _
  by_cases empty : config.script source = ""
  · rw [if_pos empty, if_pos (String.isEmpty_iff.2 empty)]
    exact meets_pure rfl
  · rw [if_neg empty, if_neg (mt String.isEmpty_iff.1 empty)]
    refine (meets_diagnose_answered answers _ s).bind fun d es s₁ _ h => ?_
    obtain ⟨rfl, -⟩ := h
    unfold Config.verdict?
    cases answer (config.script source) with
    | none => exact meets_pure rfl
    | some failure =>
      change Meets (if config.autoFix then
        repairScript interpreter (config.script source) (.ofCompileFailure _ failure) >>= _
        else _) s₁ _
      unfold Option.map Config.diagnosis Config.repair?
      split_ifs with on
      · refine (meets_repairScript_answered answers _ failure s₁).bind fun fixed es' s₂ _ h => ?_
        obtain ⟨rfl, -⟩ := h
        cases (failure.repair? (config.script source)).filter fun fixed => (answer fixed).isNone with
        | none => exact meets_pure rfl
        | some fixed => exact meets_pure rfl
      · exact meets_pure rfl

/-! ## Answers in a request -/

theorem meets_mend_answered (config : Config) (script : String) (failure : CompileFailure)
    (s : Session σ) :
    Meets (mend interpreter config script (.ofCompileFailure script failure)) s fun _ es _ =>
      Answered answer es := by
  unfold mend
  split_ifs
  · refine (meets_stage (meets_repairScript_answered answers script failure _)).bind
      fun b es s₁ _ h => ?_
    obtain ⟨es₁, s₁, -, ⟨-, answered⟩, rfl, rfl⟩ := h
    exact meets_pure (by rwa [List.append_nil, Answered.around_iff])
  · exact meets_pure nofun

theorem meets_checkAndRun_answered (config : Config) (p : Progress) (script : String)
    (s : Session σ) :
    Meets (checkAndRun interpreter config p script) s fun _ es _ => Answered answer es := by
  refine (meets_stage (meets_diagnose_answered answers script _)).bind fun b es s₁ _ h => ?_
  obtain ⟨d, diagnoseMs⟩ := b
  obtain ⟨es₁, s₁, -, ⟨rfl, diagnosed⟩, rfl, rfl⟩ := h
  have checked : Answered answer (Stage.diagnose.around es₁) := Answered.around_iff.2 diagnosed
  cases answer script with
  | none =>
    exact (meets_runAndDeliver interpreter config _ script _).mono fun _ _ _ _ conducted =>
      Answered.append_iff.2 ⟨checked, conducted.answered⟩
  | some failure =>
    refine (meets_mend_answered answers config script failure _).bind fun fixed es s₂ _ mended => ?_
    cases fixed with
    | none =>
      exact (meets_deliverReport config _ _ s₂).mono fun _ _ _ _ reported =>
        Answered.append_iff.2 ⟨checked, Answered.append_iff.2 ⟨mended, reported.answered⟩⟩
    | some fixed =>
      refine meets_tell_bind ((meets_runAndDeliver interpreter config _ fixed _).mono
        fun _ es' _ _ conducted => ?_)
      have ran : Answered answer es' := conducted.answered
      refine Answered.append_iff.2 ⟨checked, Answered.append_iff.2 ⟨mended, ?_⟩⟩
      simpa [Answered] using ran

/-- Every compilation of a request got the answer that its script has. -/
theorem meets_convert_answered (config : Config) (source : String) (s : Session σ) :
    Meets (convert interpreter config source) s fun _ es _ => Answered answer es := by
  refine (meets_prepare config source s).bind fun b es s₁ _ h => ?_
  obtain ⟨⟨normalizeMs, rfl⟩, rfl, -⟩ := h
  have opening : Answered answer (Stage.normalize.around []) := by simp [Answered, Stage.around]
  change Meets (if (config.script source).isEmpty then _ else _) s₁ _
  split_ifs with empty
  · exact meets_pure (by rwa [List.append_nil])
  · refine (meets_removePdfs s₁).bind fun r es s₂ _ removed => ?_
    cases r with
    | error e =>
      obtain ⟨rfl, -⟩ := removed
      exact meets_pure (Answered.append_iff.2 ⟨opening, by simp [Answered]⟩)
    | ok count =>
      obtain ⟨-, removals, removed, rfl⟩ := removed
      have cleaned : Answered answer (.accessed .request .list true :: removals) :=
        .of_tells ⟨removed.tells.answered, removed.tells.called⟩ rfl
      exact (meets_checkAndRun_answered answers config _ _ s₂).mono fun _ _ _ _ checked =>
        Answered.append_iff.2 ⟨opening, Answered.append_iff.2 ⟨cleaned, checked⟩⟩

end

/-! ## What a request does -/

def InterpreterCall.executed? : InterpreterCall → Option String
  | execute script _ => some script
  | _ => none

def executed (es : List Entry) : List String :=
  (es.filterMap Entry.call?).filterMap InterpreterCall.executed?

theorem executed_append (es es' : List Entry) : executed (es ++ es') = executed es ++ executed es' := by
  simp [executed]

theorem executed_of_tells_nil {es : List Entry} (h : Tells es []) : executed es = [] := by
  rw [executed, h.called]
  rfl

theorem Conducted.executed {p : Progress} {script : String} {s s' : Session σ}
    {result : Except ConversionError Output} {es : List Entry}
    (h : Conducted config p script s result es s') : executed es = [script] := by
  obtain ⟨xs, tells, performed⟩ := h.performance
  rw [ScriptPress.executed, tells.called]
  cases performed with
  | @intro ended invokes functions =>
    have none : (invokes.map Exchange.call).filterMap InterpreterCall.executed? = [] := by
      refine List.filterMap_eq_nil_iff.2 fun call mem => ?_
      obtain ⟨x, hx, rfl⟩ := List.mem_map.1 mem
      have := functions x hx
      cases x <;> simp_all [Exchange.isInvoke, Exchange.call, InterpreterCall.executed?]
    simp [Exchange.call, InterpreterCall.executed?, none]

/-- A request delivers an output with the given property, unless the clock cannot tell a deadline of
it. -/
def Delivers (config : Config) (clock : Nat) (result : Except ConversionError Output)
    (P : Output → Prop) : Prop :=
  (∃ o, result = .ok o ∧ P o) ∨ result = .error .beyondClock ∧ ¬config.Timely clock

theorem Delivers.mono {clock : Nat} {result : Except ConversionError Output} {P Q : Output → Prop}
    (h : Delivers config clock result P) (imp : ∀ o, P o → Q o) :
    Delivers config clock result Q := by
  rcases h with ⟨o, ok, holds⟩ | late
  · exact .inl ⟨o, ok, imp o holds⟩
  · exact .inr late

theorem Delivers.ne_emptySource {clock : Nat} {result : Except ConversionError Output}
    {P : Output → Prop} (h : Delivers config clock result P) : result ≠ .error .emptySource := by
  rcases h with ⟨o, rfl, -⟩ | ⟨rfl, -⟩ <;> simp

/-- The output tells of a repair as a whole: of the script and, unless it is a report, of what was
repaired. -/
structure Output.TellsRepair (o : Output) (repaired : Option (String × Diagnosis)) : Prop where
  fix : o.proposedFix = repaired.map (·.1)
  diagnosis : o.outcome ≠ .fallback → o.diagnosis = repaired.map (·.2)

theorem Reported.tellsRepair {p : Progress} {d : Diagnosis} {s s' : Session σ} {o : Output}
    {es : List Entry} (h : Reported config p d s (.ok o) es s') : o.TellsRepair p.repaired := by
  have outcome := h.output.1
  cases h
  exact ⟨rfl, fun other => absurd outcome other⟩

theorem Delivered.tellsRepair {p : Progress} {delivery : Delivery} {s s' : Session σ} {o : Output}
    {es : List Entry} (h : Delivered config p delivery s (.ok o) es s') :
    o.TellsRepair p.repaired := by
  cases h with
  | unread _ _ _ reported => exact reported.tellsRepair
  | delivered => exact ⟨rfl, fun _ => rfl⟩

theorem Conducted.tellsRepair {p : Progress} {script : String} {s s' : Session σ} {o : Output}
    {es : List Entry} (h : Conducted config p script s (.ok o) es s') :
    o.TellsRepair p.repaired := by
  cases h with
  | failed _ _ _ reported => exact reported.tellsRepair
  | unresolved _ _ _ _ _ _ reported => exact reported.tellsRepair
  | resolved _ _ _ _ _ _ delivered => exact delivered.tellsRepair

/-! ## Requests without faults -/

/-- Without faults, a script that is run comes to an output. -/
theorem Conducted.delivers {p : Progress} {script : String} {s s' : Session σ}
    {result : Except ConversionError Output} {es : List Entry}
    (h : Conducted config p script s result es s') (faultless : Faultless es) :
    Delivers config s.clock result (·.TellsRepair p.repaired) := by
  rcases h.concluded with concluded | late
  · cases concluded with
    | delivered => exact .inl ⟨_, rfl, h.tellsRepair⟩
    | unreported unreported => exact absurd faultless unreported.not_faultless
  · exact .inr late

/-- Without faults, a report is delivered. -/
theorem Reported.delivers {p : Progress} {d : Diagnosis} {s s' : Session σ}
    {result : Except ConversionError Output} {es : List Entry}
    (h : Reported config p d s result es s') (faultless : Faultless es) :
    ∃ o, result = .ok o ∧ o.outcome = .fallback ∧ o.artifact = reportName ∧
      o.bytes = p.report d s.sandbox.patches ∧ o.diagnosis = some d := by
  cases h with
  | unwritten =>
    exact absurd (by simp) (faultless (.write reportName (p.report d s.sandbox.patches)))
  | unread => exact absurd (by simp) (faultless (.read reportName))
  | delivered => exact ⟨_, rfl, rfl, rfl, rfl, rfl⟩

/-- The repair of a script is the one that the compile answers admit. -/
theorem Mended.eq_repair? {script : String} {failure : CompileFailure} {fixed : Option String}
    {es : List Entry} (h : Mended config script (.ofCompileFailure script failure) fixed es)
    (answered : Answered answer es) : config.repair? answer script failure = fixed := by
  unfold Config.repair?
  cases h with
  | off off => simp [off]
  | unknown on hopeless =>
    rw [repair?_ofCompileFailure] at hopeless
    simp [hopeless]
  | wrong again on proposed =>
    rw [repair?_ofCompileFailure] at proposed
    rw [Answered.around_iff, Answered.compiling_iff] at answered
    simp [on, proposed, ← answered]
  | right on proposed =>
    rw [repair?_ofCompileFailure] at proposed
    rw [Answered.around_iff, Answered.compiling_iff] at answered
    simp [on, proposed, ← answered]

/-- What a request does on a verdict about its script: it runs the script, runs the repair, or
reports. -/
inductive Obeys (config : Config) (clock : Nat) (script : String) (report : Diagnosis → Bytes)
    (result : Except ConversionError Output) (scripts : List String) : Option Diagnosis → Prop
  | runs (ran : scripts = [script])
      (delivers : Delivers config clock result fun o => o.proposedFix = none) :
      Obeys config clock script report result scripts none
  | repairs {d : Diagnosis} {fixed : String} (fix : d.proposedFix = some fixed)
      (ran : scripts = [fixed])
      (delivers : Delivers config clock result fun o =>
        o.proposedFix = some fixed ∧ (o.outcome ≠ .fallback → o.diagnosis = some d)) :
      Obeys config clock script report result scripts (some d)
  | reports {d : Diagnosis} (unfixed : d.proposedFix = none) (idle : scripts = [])
      (delivered : ∃ o, result = .ok o ∧ o.outcome = .fallback ∧ o.artifact = reportName ∧
        o.bytes = report d ∧ o.diagnosis = some d) :
      Obeys config clock script report result scripts (some d)

theorem Mended.executed {script : String} {d : Diagnosis} {fixed : Option String}
    {es : List Entry} (h : Mended config script d fixed es) : executed es = [] := by
  cases h <;> rfl

theorem diagnosis_of_unrepaired {script : String} {failure : CompileFailure}
    (h : config.repair? answer script failure = none) :
    config.diagnosis answer script failure = .ofCompileFailure script failure := by
  rw [Config.diagnosis, h]

theorem diagnosis_of_repaired {script fixed : String} {failure : CompileFailure}
    (h : config.repair? answer script failure = some fixed) :
    config.diagnosis answer script failure =
      (Diagnosis.ofCompileFailure script failure).withFix fixed := by
  rw [Config.diagnosis, h]

/-- A request that gets past its beginning does what the verdict about its script says. -/
theorem Checked.obeys {p : Progress} {script : String} {s s' : Session σ}
    {result : Except ConversionError Output} {es : List Entry}
    (h : Checked config p script s result es s') (fresh : p.repaired = none)
    (answered : Answered answer es) (faultless : Faultless es) :
    Obeys config s.clock script (p.report · s.sandbox.patches) result (executed es)
      (config.verdict? answer script) := by
  unfold Config.verdict?
  cases h with
  | @compiles s₁ _ _ _ diagnoseMs leads conducted =>
    have compiled : none = answer script :=
      Answered.compiling_iff.1 (Answered.around_iff.1 (Answered.append_iff.1 answered).1)
    have still : s₁.clock = s.clock := by
      simpa [Stage.around, compiling, Entry.duration] using leads.clock
    rw [← compiled, ← still]
    refine .runs ?_ ?_
    · rw [executed_append, conducted.executed]
      rfl
    · have unrepaired : (p.diagnosed diagnoseMs).repaired = none := fresh
      refine (conducted.delivers (faultless_append.1 faultless).2).mono fun o tells => ?_
      rw [tells.fix, unrepaired]
      rfl
  | @fails s₁ _ _ es' _ failure diagnoseMs mended leads reported =>
    obtain ⟨⟨first, second⟩, -⟩ := Answered.append_iff.1 answered |>.imp_left Answered.append_iff.1
    have failed : some failure = answer script :=
      Answered.compiling_iff.1 (Answered.around_iff.1 first)
    rw [← failed, Option.map_some, diagnosis_of_unrepaired (mended.eq_repair? second)]
    refine .reports (proposedFix_ofCompileFailure script failure) ?_ ?_
    · rw [executed_append, executed_append, mended.executed, executed_of_tells_nil reported.tells]
      rfl
    · rw [← leads.patches]
      exact reported.delivers (faultless_append.1 faultless).2
  | @repaired s₁ _ _ es' _ failure fixed diagnoseMs mended leads conducted =>
    obtain ⟨⟨⟨first, second⟩, -⟩, -⟩ := Answered.append_iff.1 answered
      |>.imp_left fun earlier => (Answered.append_iff.1 earlier).imp_left Answered.append_iff.1
    have failed : some failure = answer script :=
      Answered.compiling_iff.1 (Answered.around_iff.1 first)
    have still : s₁.clock = s.clock := by
      simpa [Stage.around, compiling, Entry.duration, mended.time_eq] using leads.clock
    rw [← failed, Option.map_some, diagnosis_of_repaired (mended.eq_repair? second), ← still]
    refine .repairs rfl ?_ ?_
    · simp only [executed_append, mended.executed, conducted.executed]
      rfl
    · exact (conducted.delivers (faultless_append.1 faultless).2).mono fun o tells =>
        ⟨tells.fix, tells.diagnosis⟩

def Config.report (config : Config) (source : String) (patches : Page.PatchSet) (d : Diagnosis) :
    Bytes :=
  let buffer := SourceBuffer.new source config.effectiveFontSize
  (d.report patches buffer.text buffer.fontSize).bytes

theorem Converted.obeys {source : String} {s s' : Session σ}
    {result : Except ConversionError Output} {es : List Entry}
    (h : Converted config source s result es s') (full : config.script source ≠ "")
    (answered : Answered answer es) (faultless : Faultless es) :
    Obeys config s.clock (config.script source) (config.report source s.sandbox.patches) result
      (executed es) (config.verdict? answer (config.script source)) := by
  cases h with
  | empty empty => exact absurd empty full
  | unlisted =>
    exact absurd (by simp) (faultless .list)
  | @cleaned s₁ _ removals es' _ normalizeMs _ listed removed leads checked =>
    have still : s₁.clock = s.clock := by
      simpa [Stage.around, Entry.duration, removed.time_eq] using leads.clock
    have quiet : executed (Stage.normalize.around [] ++ .accessed .request .list true :: removals) =
        [] := by
      rw [executed_append]
      exact executed_of_tells_nil ⟨removed.tells.answered, removed.tells.called⟩
    have obeys := checked.obeys rfl (Answered.append_iff.1 answered).2
      (faultless_append.1 faultless).2
    rw [executed_append, quiet, List.nil_append, ← still, ← leads.patches]
    exact obeys

theorem Converted.eq_emptySource {source : String} {s s' : Session σ}
    {result : Except ConversionError Output} {es : List Entry}
    (h : Converted config source s result es s') (empty : config.script source = "") :
    result = .error .emptySource := by
  cases h with
  | empty => rfl
  | unlisted full => exact absurd empty full
  | cleaned _ full => exact absurd empty full

theorem Obeys.ne_emptySource {clock : Nat} {script : String} {report : Diagnosis → Bytes}
    {result : Except ConversionError Output} {scripts : List String} {verdict : Option Diagnosis}
    (h : Obeys config clock script report result scripts verdict) :
    result ≠ .error .emptySource := by
  cases h with
  | runs _ delivers => exact delivers.ne_emptySource
  | repairs _ _ delivers => exact delivers.ne_emptySource
  | reports _ _ delivered =>
    obtain ⟨o, rfl, -⟩ := delivered
    simp

/-- Where compile answers depend on the script alone and no call of the store fails, a request does
what a check says, even one that is made in another session: both find the source empty, or the
request runs the script, runs the repair that the check proposes, or reports what the check found.
What it runs is stated for every clock. That it delivers an output has one exception, which
`Delivers` carries: functions are due to be called behind the run, and the clock cannot tell when
their time is over. -/
theorem check_agrees_with_convert (interpreter : Interpreter σ)
    (answer : String → Option CompileFailure) (config : Config) (source : String)
    (s t : Session σ) (answers : interpreter.AnswersBy answer)
    (faultless : Faultless (entries (convert interpreter config source) s)) :
    let checked := (check interpreter config source t).1
    let result := (convert interpreter config source s).1
    let scripts := executed (entries (convert interpreter config source) s)
    (checked = .error .emptySource ↔ result = .error .emptySource) ∧
      (∀ e, checked = .error e → e = .emptySource) ∧
      ∀ verdict, checked = .ok verdict →
        Obeys config s.clock (config.script source) (config.report source s.sandbox.patches) result
          scripts verdict := by
  intro checked result scripts
  have verdict : checked = _ := (meets_check_verdict answers config source t).run.2
  obtain ⟨-, converted⟩ := (meets_convert interpreter config source s).run
  obtain ⟨-, answered⟩ := (meets_convert_answered answers config source s).run
  by_cases empty : config.script source = ""
  · rw [if_pos empty] at verdict
    have both : result = .error .emptySource := converted.eq_emptySource empty
    simp [verdict, both]
  · rw [if_neg empty] at verdict
    have obeys := converted.obeys empty answered faultless
    have never : result ≠ .error .emptySource := obeys.ne_emptySource
    refine ⟨by simp [verdict, never], by simp [verdict], ?_⟩
    rw [verdict]
    rintro _ ⟨⟩
    exact obeys

/-- The check proposes the repair that the request runs. -/
theorem pedantic_check_agrees :
    let s := Session.new ⟨.inMemory .none, .all⟩ ()
    ∃ d, (check .pedantic .default "if x" s).1 = .ok (some d) ∧ d.proposedFix = some "if x:" ∧
      executed (entries (convert .pedantic .default "if x") s) = ["if x:"] := by
  intro s
  have main := check_agrees_with_convert .pedantic missedColon? .default "if x" s s
    (fun _ _ => rfl) (by decide +kernel)
  have found : (check .pedantic .default "if x" s).1.toOption.map (·.bind (·.proposedFix)) =
      some (some "if x:") := by
    decide +kernel
  cases checked : (check .pedantic .default "if x" s).1 with
  | error e => simp [checked, Except.toOption] at found
  | ok verdict =>
    rw [checked] at found
    obtain ⟨d, rfl, fix⟩ := Option.bind_eq_some_iff.1 (Option.some.inj found)
    cases main.2.2 _ checked with
    | repairs fix' ran =>
      obtain rfl := Option.some.inj (fix.symm.trans fix')
      exact ⟨d, rfl, fix, ran⟩
    | reports unfixed => simp [fix] at unfixed

end ScriptPress
