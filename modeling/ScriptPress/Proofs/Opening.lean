import ScriptPress.Proofs.FirstDocument

/-!
# Openings

A request drops the documents that are left, compiles its script and may repair it. What comes
behind this opening is the run of a script with all that follows from it, or the report at once. A
run either fails, or it returns, and something to deliver is searched for.

## Main definitions

* `Opened` — the opening of a request.
* `Parted` — a request as its opening and what comes behind it.
* `runEntries`, `cleanRun`, `FailedRun` — the entries of a run, of one that returned and was listed,
  and of one that failed.
* `Performed` — a run with all that follows from it.

## Main statements

* `Converted.parted`, `Conducted.performed` — every request is parted like this.
* `Ran.exists_cleanRun`, `Ran.failedRun` — every run is one of these two.
-/

namespace ScriptPress

open Conversion

variable {σ : Type} {config : Config} {source : String}

/-! ## The opening of a request -/

/-- The opening of a request that can list its files: which script is to run, if one compiles, what
is known then, and what has happened. -/
inductive Opened (config : Config) (source : String) (s : Session σ) :
    Option String → Progress → List Entry → Prop
  | compiles {removals : List Entry} (normalizeMs diagnoseMs : UInt64)
      (removed : Removals s.sandbox.store.documents removals) :
      Opened config source s (some (config.script source))
        ((Progress.initial config source s.clock normalizeMs).diagnosed diagnoseMs)
        (Stage.normalize.around [] ++ .accessed .request .list true :: removals ++
          Stage.diagnose.around (compiling (config.script source) none))
  | fails {removals es : List Entry} {failure : CompileFailure} (normalizeMs diagnoseMs : UInt64)
      (removed : Removals s.sandbox.store.documents removals)
      (mended : Mended config (config.script source)
        (.ofCompileFailure (config.script source) failure) none es) :
      Opened config source s none
        ((Progress.initial config source s.clock normalizeMs).diagnosed diagnoseMs)
        (Stage.normalize.around [] ++ .accessed .request .list true :: removals ++
          (Stage.diagnose.around (compiling (config.script source) failure) ++ es))
  | repaired {removals es : List Entry} {failure : CompileFailure} {fixed : String}
      (normalizeMs diagnoseMs : UInt64) (removed : Removals s.sandbox.store.documents removals)
      (mended : Mended config (config.script source)
        (.ofCompileFailure (config.script source) failure) (some fixed) es) :
      Opened config source s (some fixed)
        (((Progress.initial config source s.clock normalizeMs).diagnosed diagnoseMs).mended
          (.ofCompileFailure (config.script source) failure) fixed)
        (Stage.normalize.around [] ++ .accessed .request .list true :: removals ++
          (Stage.diagnose.around (compiling (config.script source) failure) ++ es ++
            [.told (.fixProposed (.ofCompileFailure (config.script source) failure) fixed)]))

theorem ConversionError.ofStore_ne_beyondClock (e : StoreError) :
    ConversionError.ofStore e ≠ .beyondClock := by
  cases e <;> nofun

/-- A request as its opening and what comes behind it. -/
inductive Parted (config : Config) (source : String) (s : Session σ) :
    Except ConversionError Output → List Entry → Session σ → Prop
  | unopened {es : List Entry} {s' : Session σ} (e : ConversionError)
      (beginning : es = Stage.normalize.around [] ∨
        es = Stage.normalize.around [] ++ [.accessed .request .list false])
      (other : e ≠ .beyondClock) :
      Parted config source s (.error e) es s'
  | reported {p : Progress} {d : Diagnosis} {before behind : List Entry} {s₁ s' : Session σ}
      {result : Except ConversionError Output} (opened : Opened config source s none p before)
      (leads : s.Leads before s₁) (reported : Reported config p d s₁ result behind s') :
      Parted config source s result (before ++ behind) s'
  | conducted {p : Progress} {script : String} {before behind : List Entry} {s₁ s' : Session σ}
      {result : Except ConversionError Output}
      (opened : Opened config source s (some script) p before) (leads : s.Leads before s₁)
      (conducted : Conducted config p script s₁ result behind s') :
      Parted config source s result (before ++ behind) s'

/-- Every request is an opening and what comes behind it, or is over before. -/
theorem Converted.parted {s s' : Session σ} {result : Except ConversionError Output}
    {es : List Entry} (h : Converted config source s result es s') :
    Parted config source s result es s' := by
  cases h with
  | empty => exact .unopened _ (.inl rfl) nofun
  | unlisted => exact .unopened _ (.inr rfl) (ConversionError.ofStore_ne_beyondClock _)
  | cleaned normalizeMs _ _ removed leads checked =>
    cases checked with
    | compiles diagnoseMs leads₁ conducted =>
      rw [← List.append_assoc]
      exact .conducted (.compiles normalizeMs diagnoseMs removed) (leads.trans leads₁) conducted
    | fails diagnoseMs mended leads₁ reported =>
      rw [← List.append_assoc]
      exact .reported (.fails normalizeMs diagnoseMs removed mended) (leads.trans leads₁) reported
    | repaired diagnoseMs mended leads₁ conducted =>
      rw [← List.append_assoc]
      exact .conducted (.repaired normalizeMs diagnoseMs removed mended) (leads.trans leads₁)
        conducted

theorem Mended.tells {script : String} {d : Diagnosis} {fixed : Option String} {es : List Entry}
    (h : Mended config script d fixed es) : ∃ xs, Tells es xs ∧ ∀ x ∈ xs, x.isCompile := by
  cases h with
  | off => exact ⟨[], ⟨rfl, rfl⟩, by simp⟩
  | unknown => exact ⟨[], ⟨rfl, rfl⟩, by simp⟩
  | wrong => exact ⟨_, (tells_compiling _ _).around _, by simp [Exchange.isCompile]⟩
  | right => exact ⟨_, (tells_compiling _ _).around _, by simp [Exchange.isCompile]⟩

/-- In its opening a request asks the interpreter for nothing but to compile. -/
theorem Opened.tells {s : Session σ} {script : Option String} {p : Progress} {es : List Entry}
    (h : Opened config source s script p es) : ∃ xs, Tells es xs ∧ ∀ x ∈ xs, x.isCompile := by
  have cleaned {removals : List Entry} (removed : Removals s.sandbox.store.documents removals) :
      Tells (Stage.normalize.around [] ++ .accessed .request .list true :: removals) [] := by
    have normalized : Tells (Stage.normalize.around []) [] := ⟨rfl, rfl⟩
    exact normalized.append ⟨removed.tells.answered, removed.tells.called⟩
  have told (event : Event) : Tells [.told event] [] := ⟨rfl, rfl⟩
  have checked (script : String) (failure : Option CompileFailure) :
      Tells (Stage.diagnose.around (compiling script failure)) [.compile script failure] :=
    (tells_compiling script failure).around _
  cases h with
  | compiles _ _ removed =>
    exact ⟨_, (cleaned removed).append (checked _ _), by simp [Exchange.isCompile]⟩
  | fails _ _ removed mended =>
    obtain ⟨xs, tells, compiles⟩ := mended.tells
    exact ⟨_, (cleaned removed).append ((checked _ _).append tells),
      by simpa [Exchange.isCompile] using compiles⟩
  | repaired _ _ removed mended =>
    obtain ⟨xs, tells, compiles⟩ := mended.tells
    exact ⟨_, (cleaned removed).append (((checked _ _).append tells).append (told _)),
      by simpa [Exchange.isCompile] using compiles⟩

/-- Whether an entry tells of files: of a call of the store, or of a file that was put there. -/
def Entry.ofFiles : Entry → Bool
  | accessed _ _ _ | placed _ _ => true
  | _ => false

theorem compiling_not_ofFiles (stage : Stage) (script : String)
    (failure : Option CompileFailure) :
    ∀ e ∈ stage.around (compiling script failure), e.ofFiles = false :=
  Stage.forall_mem_around.2 ⟨rfl, by simp [compiling, Entry.ofFiles], rfl⟩

theorem Mended.not_ofFiles {script : String} {d : Diagnosis} {fixed : Option String}
    {es : List Entry} (h : Mended config script d fixed es) : ∀ e ∈ es, e.ofFiles = false := by
  cases h with
  | off => exact List.forall_mem_nil _
  | unknown => exact Stage.forall_mem_around.2 ⟨rfl, List.forall_mem_nil _, rfl⟩
  | wrong => exact compiling_not_ofFiles _ _ _
  | right => exact compiling_not_ofFiles _ _ _

/-- As a request opens, it lists the documents and drops them, and does nothing else with files. -/
theorem Opened.exists_removals {s : Session σ} {script : Option String} {p : Progress}
    {es : List Entry} (h : Opened config source s script p es) : ∃ removals rest,
      es = Stage.normalize.around [] ++ [.accessed .request .list true] ++ (removals ++ rest) ∧
      Removals s.sandbox.store.documents removals ∧ ∀ e ∈ rest, e.ofFiles = false := by
  have checked := compiling_not_ofFiles .diagnose (config.script source)
  cases h with
  | compiles _ _ removed => exact ⟨_, _, by simp, removed, checked none⟩
  | @fails _ _ failure _ _ removed mended =>
    have rest := List.forall_mem_append.2 ⟨checked failure, mended.not_ofFiles⟩
    exact ⟨_, _, by simp, removed, rest⟩
  | @repaired _ _ failure fixed _ _ removed mended =>
    have told : ∀ e ∈ [Entry.told (.fixProposed (.ofCompileFailure (config.script source) failure)
        fixed)], e.ofFiles = false := List.forall_mem_singleton.2 rfl
    have rest := List.forall_mem_append.2
      ⟨List.forall_mem_append.2 ⟨checked failure, mended.not_ofFiles⟩, told⟩
    exact ⟨_, _, by simp, removed, rest⟩

/-! ## Runs -/

/-- The entries of running a script: its call, what the script does, and what came of it, with other
entries behind. -/
def runEntries (script : String) (played : List Entry) (ended : Ended) (behind : List Entry) :
    List Entry :=
  .called (.execute script script) :: (played ++ .answered (.execute script script ended) :: behind)

/-- The entries of running a script that returns, and of the listing behind it. -/
def cleanRun (script : String) (played : List Entry) : List Entry :=
  .called (.execute script script) ::
    (played ++ [.answered (.execute script script .returned), .accessed .request .list true])

/-- The entries of a run that fails: it raises or is out of time; or it returns, and the listing
behind it fails. -/
inductive FailedRun (script : String) : List Entry → Prop
  | stopped {played : List Entry} {ended : Ended} (byScript : ∀ e ∈ played, e.byScript)
      (other : ended ≠ .returned) : FailedRun script (runEntries script played ended [])
  | unlisted {played : List Entry} (byScript : ∀ e ∈ played, e.byScript) :
      FailedRun script (runEntries script played .returned [.accessed .request .list false])

theorem runEntries_append (script : String) (played : List Entry) (ended : Ended)
    (behind rest : List Entry) :
    runEntries script played ended behind ++ rest =
      runEntries script played ended (behind ++ rest) := by
  simp [runEntries]

theorem forall_mem_runEntries {P : Entry → Prop} {script : String} {played behind : List Entry}
    {ended : Ended} (called : P (.called (.execute script script))) (scripted : ∀ e ∈ played, P e)
    (answered : P (.answered (.execute script script ended))) (rest : ∀ e ∈ behind, P e) :
    ∀ e ∈ runEntries script played ended behind, P e :=
  List.forall_mem_cons.2
    ⟨called, List.forall_mem_append.2 ⟨scripted, List.forall_mem_cons.2 ⟨answered, rest⟩⟩⟩

theorem Calls.exists_runEntries {limit : Nat} {script printed : String} {ended : Ended}
    {c c' : Context} {es : List Entry} (h : Calls limit (.execute script script ended) es)
    (captured : Captured c es printed c') :
    ∃ played, es = runEntries script played ended [] ∧ (∀ e ∈ played, e.byScript) ∧
      Captured c played printed c' := by
  cases h with
  | @intro played byScript => exact ⟨played, rfl, byScript, captured_around_iff.1 captured⟩

/-- What a run comes to that failed. -/
theorem Ran.failedRun {script printed : String} {c c' : Context} {limit : Nat} {d : Diagnosis}
    {s s' : Session σ} {es : List Entry}
    (h : Ran script c limit s (.failure d, printed, c') es s') (same : c.script = script) :
    FailedRun script es := by
  subst same
  cases h with
  | timedOut calls captured =>
    obtain ⟨played, rfl, byScript, -⟩ := calls.exists_runEntries captured
    exact .stopped byScript (by simp)
  | raised e calls captured =>
    obtain ⟨played, rfl, byScript, -⟩ := calls.exists_runEntries captured
    exact .stopped byScript (by simp)
  | unlisted _ calls captured =>
    obtain ⟨played, rfl, byScript, -⟩ := calls.exists_runEntries captured
    rw [runEntries_append]
    exact .unlisted byScript

/-- A run that succeeded is one that returned and was listed. -/
theorem Ran.exists_cleanRun {script printed : String} {c c' : Context} {limit : Nat}
    {s s' : Session σ} {pdfs : List String} {es : List Entry}
    (h : Ran script c limit s (.success pdfs, printed, c') es s') (same : c.script = script) :
    ∃ played, es = cleanRun script played ∧ (∀ e ∈ played, e.byScript) ∧
      Captured c played printed c' := by
  subst same
  cases h with
  | listed calls captured =>
    obtain ⟨played, rfl, byScript, captured⟩ := calls.exists_runEntries captured
    exact ⟨played, runEntries_append _ _ _ _ _, byScript, captured⟩

theorem ofRun_runEntries {script : String} {played behind : List Entry} {ended : Ended}
    (byScript : ∀ e ∈ played, e.byScript) (rest : ∀ e ∈ behind, e.ofRun) :
    ∀ e ∈ runEntries script played ended behind, e.ofRun :=
  forall_mem_runEntries rfl (fun e mem => Entry.ofRun_of_byScript (byScript e mem)) rfl rest

theorem ofRun_cleanRun {script : String} {played : List Entry} (h : ∀ e ∈ played, e.byScript) :
    ∀ e ∈ cleanRun script played, e.ofRun :=
  ofRun_runEntries h (List.forall_mem_singleton.2 rfl)

theorem FailedRun.ofRun {script : String} {es : List Entry} (h : FailedRun script es) :
    ∀ e ∈ es, e.ofRun := by
  cases h with
  | stopped byScript => exact ofRun_runEntries byScript (List.forall_mem_nil _)
  | unlisted byScript => exact ofRun_runEntries byScript (List.forall_mem_singleton.2 rfl)

/-! ## Behind the opening -/

/-- The end of a request behind the search for something to deliver. -/
inductive Closed (config : Config) (p : Progress) (s : Session σ) :
    Resolution → Except ConversionError Output → List Entry → Session σ → Prop
  | delivered {delivery : Delivery} {result : Except ConversionError Output} {es : List Entry}
      {s' : Session σ} (delivered : Delivered config p delivery s result es s') :
      Closed config p s (.delivered delivery) result es s'
  | reported {d : Diagnosis} {result : Except ConversionError Output} {es : List Entry}
      {s' : Session σ} (reported : Reported config p d s result es s') :
      Closed config p s (.failed d) result es s'
  | beyondClock : Closed config p s .beyondClock (.error .beyondClock) [] s

/-- A script that compiles fails; or it returns, its documents are listed, and something to deliver
is searched for. -/
inductive Performed (config : Config) (script : String) (s : Session σ) :
    Except ConversionError Output → List Entry → Session σ → Prop
  | failed {p : Progress} {d : Diagnosis} {es es' : List Entry} {s₁ s' : Session σ}
      {result : Except ConversionError Output} (run : FailedRun script es)
      (leads : s.Leads (Stage.execute.around es) s₁)
      (reported : Reported config p d s₁ result es' s') :
      Performed config script s result (Stage.execute.around es ++ es') s'
  | returned {p : Progress} {played es es' : List Entry} {printed : String} {c c' : Context}
      {resolution : Resolution} {s₁ s₂ s' : Session σ} {result : Except ConversionError Output}
      (byScript : ∀ e ∈ played, e.byScript)
      (captured : Captured (config.context script s.sandbox) played printed c)
      (leads : s.Leads (Stage.execute.around (cleanRun script played)) s₁)
      (resolved : Resolved c s₁.sandbox.store.documents printed config.resolveOptions
        (s₁.enter .resolve) (resolution, c') es s₂)
      (leads₁ : (s₁.enter .resolve).Leads es s₂)
      (closed : Closed config p (s₂.leave .resolve) resolution result es' s') :
      Performed config script s result
        (Stage.execute.around (cleanRun script played) ++ (Stage.resolve.around es ++ es')) s'

theorem Conducted.performed {p : Progress} {script : String} {s s' : Session σ}
    {result : Except ConversionError Output} {es : List Entry}
    (h : Conducted config p script s result es s') : Performed config script s result es s' := by
  have same := script_context config script s.sandbox
  cases h with
  | failed _ ran leads reported =>
    exact .failed (ran.failedRun same) leads.around reported
  | unresolved _ _ ran leads resolved leads₁ reported =>
    obtain ⟨played, rfl, byScript, captured⟩ := ran.exists_cleanRun same
    cases ran.documents
    exact .returned byScript captured leads.around resolved leads₁ (.reported reported)
  | resolved _ _ ran leads resolved leads₁ delivered =>
    obtain ⟨played, rfl, byScript, captured⟩ := ran.exists_cleanRun same
    cases ran.documents
    exact .returned byScript captured leads.around resolved leads₁ (.delivered delivered)
  | @beyondClock _ _ _ _ _ _ s₁ _ ran leads resolved =>
    obtain ⟨played, rfl, byScript, captured⟩ := ran.exists_cleanRun same
    cases ran.documents
    have run : s.Leads (Stage.execute.around (cleanRun script played)) (s₁.leave .execute) :=
      leads.around
    cases resolved with
    | beyondClock unsaved silent calls limit =>
      simpa using Performed.returned byScript captured run (.beyondClock unsaved silent calls limit)
        (.refl _) (.beyondClock (p := p))

end ScriptPress
