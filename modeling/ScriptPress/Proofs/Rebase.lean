import ScriptPress.Proofs.FatalError

/-!
# Requests begun later

A request looks at its files, at the interpreter's state and at the time that has passed since it
began. It looks neither at the journal in front of it nor at the moment at which it began, as long
as the clock can tell the same deadlines.

## Main definitions

* `Session.rebase` — a session begun later, behind other entries.
* `Conversion.Follows` — work does in a session begun later what it does in this one.
* `TellsAlike`, `TellsRunAlike` — the clock tells deadlines at one moment as it does at a later one.

## Main statements

* `Conversion.Follows.bind` — work in sequence.
* `Session.run_rebase` — a running script.
* `Conversion.follows_runScript`, `Conversion.follows_resolve` — runs, and what is searched for
  after them.
* `Conversion.follows_checkAndRun` — all of a request behind its beginning.
-/

namespace ScriptPress

variable {σ α β : Type}

/-- The session begun `k` milliseconds later, behind the entries `j`. -/
def Session.rebase (k : Nat) (j : List Entry) (s : Session σ) : Session σ :=
  { s with clock := s.clock + k, journal := j ++ s.journal }

/-- The clock tells the deadlines of a time limit at a moment and `k` milliseconds later, or at
neither. -/
def TellsAlike (k limit clock : Nat) : Prop :=
  (deadline? clock limit).isSome = (deadline? (clock + k) limit).isSome

theorem deadline?_add {k limit clock : Nat} (h : TellsAlike k limit clock) :
    deadline? (clock + k) limit = (deadline? clock limit).map (· + k) := by
  unfold TellsAlike deadline? at *
  split_ifs at * <;> simp_all
  omega

theorem runDeadline_add {k limit clock : Nat} (h : TellsAlike k limit clock) :
    runDeadline (clock + k) limit = runDeadline clock limit + k := by
  unfold runDeadline
  rw [deadline?_add h]
  cases deadline? clock limit with
  | none => simp only [Option.map_none, Option.getD_none]; omega
  | some deadline => rfl

namespace Session

variable (k : Nat) (j : List Entry) (s : Session σ)

theorem note_rebase (e : Entry) : (s.rebase k j).note e = (s.note e).rebase k j := by
  simp [rebase, note]

theorem sleep_rebase (ms : Nat) : (s.rebase k j).sleep ms = (s.sleep ms).rebase k j := by
  simp [rebase, sleep, Nat.add_right_comm]

theorem access_rebase (actor : Actor) (a : Access) (call : Store → Except StoreError α × Store) :
    (s.rebase k j).access actor a call =
      ((s.access actor a call).1, (s.access actor a call).2.rebase k j) := by
  simp [rebase, access, withStore, note]

theorem place_rebase (name bytes : Bytes) :
    (s.rebase k j).place name bytes = (s.place name bytes).rebase k j := by
  unfold place
  split_ifs <;> simp_all [rebase, withStore, note]

/-- A script does the same in a session begun later, up to a deadline that is later by as much. -/
theorem run_rebase (deadline : Nat) (program : Program σ) (c : Context) :
    Conversion.run (deadline + k) program c (s.rebase k j) =
      ((Conversion.run deadline program c s).1,
        (Conversion.run deadline program c s).2.rebase k j) := by
  induction program generalizing c s with
  | finish ending state => rfl
  | print text next ih =>
    rw [Conversion.run, note_rebase]
    exact ih _ _
  | define name next ih =>
    rw [Conversion.run, note_rebase]
    exact ih _ _
  | replace names next ih =>
    rw [Conversion.run, note_rebase]
    exact ih _ _
  | record producer next ih =>
    rw [Conversion.run, note_rebase]
    exact ih _ _
  | sleep ms interrupted next ih =>
    have early : (s.rebase k j).clock + ms ≤ deadline + k ↔ s.clock + ms ≤ deadline := by
      simp only [rebase]
      omega
    rw [Conversion.run, Conversion.run]
    by_cases intime : s.clock + ms ≤ deadline
    · rw [if_pos intime, if_pos (early.2 intime), sleep_rebase, ih]
    · have left : deadline + k - (s.rebase k j).clock = deadline - s.clock := by
        simp only [rebase]
        omega
      rw [if_neg intime, if_neg (mt early.1 intime), left, sleep_rebase]
      rfl
  | list next ih =>
    rw [Conversion.run, access_rebase]
    exact ih _ _ _
  | read name next ih =>
    rw [Conversion.run, access_rebase]
    exact ih _ _ _
  | write name bytes next ih =>
    rw [Conversion.run, access_rebase]
    exact ih _ _ _
  | remove name next ih =>
    rw [Conversion.run, access_rebase]
    exact ih _ _ _
  | place name bytes next ih =>
    rw [Conversion.run, place_rebase]
    exact ih _ _

end Session

namespace Conversion

/-- The work `y` does in the session begun later what `x` does in this one. -/
def Follows (k : Nat) (j : List Entry) (x y : Conversion σ α) (s : Session σ) : Prop :=
  y (s.rebase k j) = ((x s).1, (x s).2.rebase k j)

section

variable {k : Nat} {j : List Entry} {s : Session σ}

theorem follows_pure (a : α) : Follows k j (pure a) (pure a) s := rfl

/-- Work in sequence. -/
theorem Follows.bind {x y : Conversion σ β} {f g : β → Conversion σ α} (h : Follows k j x y s)
    (h' : ∀ b s₁, x s = (b, s₁) → Follows k j (f b) (g b) s₁) :
    Follows k j (x >>= f) (y >>= g) s := by
  have next := h' _ _ rfl
  unfold Follows at *
  simp only [Bind.bind, StateT.bind, h]
  exact next

theorem follows_now_bind {f g : Nat → Conversion σ α}
    (h : Follows k j (f s.clock) (g (s.clock + k)) s) : Follows k j (now >>= f) (now >>= g) s := h

theorem follows_get_bind {f g : Session σ → Conversion σ α}
    (h : Follows k j (f s) (g (s.rebase k j)) s) : Follows k j (get >>= f) (get >>= g) s := h

theorem follows_note (e : Entry) : Follows k j (note e) (note e) s := by
  have same := s.note_rebase k j e
  unfold Follows note
  simp only [modify, modifyGet, MonadStateOf.modifyGet, StateT.modifyGet, same]
  rfl

theorem follows_tell (event : Event) : Follows k j (tell event) (tell event) s := follows_note _

theorem follows_elapsed (start : Nat) :
    Follows k j (elapsed start) (elapsed (start + k)) s := by
  apply follows_now_bind
  rw [Nat.add_sub_add_right]
  exact follows_pure _

/-- A stage takes the time that it takes. -/
theorem Follows.stage {x y : Conversion σ α} {stage : Stage}
    (h : Follows k j x y (s.enter stage)) :
    Follows k j (Conversion.stage stage x) (Conversion.stage stage y) s := by
  refine follows_now_bind ((follows_tell _).bind fun _ s₁ hs₁ => ?_)
  obtain rfl : s.enter stage = s₁ := congrArg Prod.snd hs₁
  refine h.bind fun a s₂ _ => (follows_tell _).bind fun _ s₃ _ => follows_now_bind ?_
  rw [Nat.add_sub_add_right]
  exact follows_pure _

theorem follows_access (a : Access) (call : Store → Except StoreError α × Store) :
    Follows k j (modifyGet (Session.access .request a call))
      (modifyGet (Session.access .request a call)) s :=
  s.access_rebase k j .request a call

theorem follows_listPdfs : Follows k j listPdfs listPdfs s := by
  unfold listPdfs Store.pdfsBy
  exact (follows_access .list Store.list).bind fun names _ _ => follows_pure _

theorem follows_compile (interpreter : Interpreter σ) (script : String) :
    Follows k j (compile interpreter script) (compile interpreter script) s := by
  have compiled (s : Session σ) : Follows k j ((Job.compile script).carryOut interpreter)
      ((Job.compile script).carryOut interpreter) s := rfl
  refine (follows_note _).bind fun _ s₁ _ => (compiled s₁).bind fun failure s₂ _ => ?_
  exact (follows_note _).bind fun _ _ _ => follows_pure _

theorem follows_play (deadline : Nat) (program : Program σ) (c : Context) :
    Follows k j (play deadline program c) (play (deadline + k) program c) s := by
  refine Follows.bind (s.run_rebase k j deadline program c.redirect.2) fun r s₁ _ => ?_
  exact follows_pure _

theorem follows_execute (interpreter : Interpreter σ) (deadline : Nat) (script : String)
    (c : Context) :
    Follows k j (execute interpreter deadline script c)
      (execute interpreter (deadline + k) script c) s := by
  have executed (s : Session σ) : Follows k j ((Job.execute deadline script c).carryOut interpreter)
      ((Job.execute (deadline + k) script c).carryOut interpreter) s :=
    follows_get_bind (follows_play _ _ _)
  refine (follows_note _).bind fun _ s₁ _ => (executed s₁).bind fun r s₂ _ => ?_
  exact (follows_note _).bind fun _ _ _ => follows_pure _

theorem follows_invoke (interpreter : Interpreter σ) (deadline : Nat) (function : String)
    (arg : Option String) (c : Context) :
    Follows k j (invoke interpreter deadline function arg c)
      (invoke interpreter (deadline + k) function arg c) s := by
  have invoked (s : Session σ) :
      Follows k j ((Job.invoke deadline function arg c).carryOut interpreter)
        ((Job.invoke (deadline + k) function arg c).carryOut interpreter) s :=
    follows_get_bind (follows_play _ _ _)
  refine (follows_note _).bind fun _ s₁ _ => (invoked s₁).bind fun r s₂ _ => ?_
  exact (follows_note _).bind fun _ _ _ => follows_pure _

/-! ### Runs and deliveries -/

theorem follows_runScript (interpreter : Interpreter σ) (script : String) (c : Context)
    {limit : Nat} (alike : TellsAlike k limit s.clock) :
    Follows k j (runScript interpreter script c limit) (runScript interpreter script c limit) s := by
  apply follows_now_bind
  rw [runDeadline_add alike]
  refine (follows_execute _ _ _ _).bind fun r s₁ _ => ?_
  obtain ⟨ending, printed, c'⟩ := r
  match ending with
  | none => exact follows_pure _
  | some (.error e) => exact follows_pure _
  | some (.ok ()) =>
    refine follows_listPdfs.bind fun r s₂ _ => ?_
    cases r <;> exact follows_pure _

theorem follows_tryFunction (interpreter : Interpreter σ) (deadline : Nat) (function : String)
    (args : List (Option String)) (c : Context) :
    Follows k j (tryFunction interpreter deadline function args c)
      (tryFunction interpreter (deadline + k) function args c) s := by
  induction args generalizing c s with
  | nil => exact follows_pure _
  | cons arg args ih =>
    refine (follows_invoke _ _ _ _ _).bind fun r s₁ _ => ?_
    obtain ⟨ending, printed, c'⟩ := r
    match ending with
    | none => exact follows_pure _
    | some (.error e) => exact ih c'
    | some (.ok ()) =>
      refine follows_listPdfs.bind fun r s₂ _ => ?_
      match r with
      | .error e => exact follows_pure _
      | .ok [] => exact follows_pure _
      | .ok (pdf :: pdfs) => exact follows_pure _

theorem follows_tryFunctions (interpreter : Interpreter σ) (deadline : Nat)
    (functions : List String) (c : Context) :
    Follows k j (tryFunctions interpreter deadline functions c)
      (tryFunctions interpreter (deadline + k) functions c) s := by
  induction functions generalizing c s with
  | nil => exact follows_pure _
  | cons function functions ih =>
    refine (follows_tryFunction _ _ _ _ _).bind fun r s₁ _ => ?_
    match r with
    | (.nothing, c') => exact ih c'
    | (.stopped, c') => exact follows_pure _
    | (.produced f pdfs, c') => exact follows_pure _

theorem follows_autoInvoke (interpreter : Interpreter σ) (c : Context) {limit : Nat}
    (alike : TellsAlike k limit s.clock) :
    Follows k j (autoInvoke interpreter c limit) (autoInvoke interpreter c limit) s := by
  apply follows_now_bind
  rw [deadline?_add alike]
  cases deadline? s.clock limit with
  | none => exact follows_pure _
  | some deadline =>
    refine (follows_tryFunctions _ _ _ _).bind fun r s₁ _ => ?_
    match r with
    | (.nothing, c') => exact follows_pure _
    | (.stopped, c') => exact follows_pure _
    | (.produced f pdfs, c') => exact follows_pure _

theorem follows_writeDocument (name : String) (d : Page.Document) :
    Follows k j (writeDocument name d) (writeDocument name d) s := by
  refine (follows_access (.write name d.bytes) (Store.write name d.bytes)).bind fun r s₁ _ => ?_
  cases r <;> exact follows_pure _

theorem follows_writePrintout (text : String) (fontSize : Option UInt32) :
    Follows k j (writePrintout text fontSize) (writePrintout text fontSize) s := by
  apply follows_get_bind
  dsimp only [Session.rebase]
  cases printout s.sandbox.patches text fontSize with
  | error e => exact follows_pure _
  | ok d => exact follows_writeDocument _ _

theorem follows_resolve (interpreter : Interpreter σ) (c : Context) (pdfs : List String)
    (printed : String) {options : ResolveOptions} (alike : TellsAlike k options.limit s.clock) :
    Follows k j (resolve interpreter c pdfs printed options)
      (resolve interpreter c pdfs printed options) s := by
  unfold resolve
  split_ifs
  · exact follows_pure _
  · refine (follows_writePrintout _ _).bind fun r s₁ _ => ?_
    cases r <;> exact follows_pure _
  · exact follows_autoInvoke interpreter c alike
  · exact follows_pure _

theorem follows_writeReport (d : Diagnosis) (source : String) (fontSize : Option UInt32) :
    Follows k j (writeReport d source fontSize) (writeReport d source fontSize) s := by
  apply follows_get_bind
  refine (follows_writeDocument _ _).bind fun r s₁ _ => ?_
  cases r <;> exact follows_pure _

/-! ### The request -/

/-- What is known of a request that began `k` milliseconds later. -/
def Progress.later (k : Nat) (p : Progress) : Progress := { p with start := p.start + k }

theorem follows_deliverReport (config : Config) (p : Progress) (d : Diagnosis) :
    Follows k j (deliverReport config p d) (deliverReport config (p.later k) d) s := by
  refine follows_now_bind ((follows_tell _).bind fun _ s₁ _ => ?_)
  refine (follows_writeReport _ _ _).bind fun r s₂ _ => ?_
  cases r with
  | error e => exact follows_pure _
  | ok artifact =>
    refine (follows_access (.read artifact) (Store.read artifact)).bind fun r s₃ _ => ?_
    cases r with
    | error e => exact follows_pure _
    | ok bytes =>
      refine (follows_tell _).bind fun _ s₄ _ => ?_
      refine (follows_elapsed _).bind fun fallbackMs s₅ _ => ?_
      refine (follows_elapsed _).bind fun totalMs s₆ _ => ?_
      refine (follows_tell _).bind fun _ s₇ _ => (follows_tell _).bind fun _ s₈ _ => ?_
      exact follows_pure _

theorem follows_deliver (config : Config) (p : Progress) (delivery : Delivery) :
    Follows k j (deliver config p delivery) (deliver config (p.later k) delivery) s := by
  obtain ⟨outcome, artifacts⟩ := delivery
  cases artifacts with
  | nil => exact follows_pure _
  | cons artifact artifacts =>
    refine (follows_access (.read artifact) (Store.read artifact)).bind fun r s₁ _ => ?_
    cases r with
    | error e => exact follows_deliverReport config (p.found _) _
    | ok bytes =>
      refine (follows_elapsed _).bind fun totalMs s₂ _ => ?_
      exact (follows_tell _).bind fun _ s₃ _ => follows_pure _

theorem follows_diagnose (interpreter : Interpreter σ) (script : String) :
    Follows k j (diagnose interpreter script) (diagnose interpreter script) s :=
  (follows_compile _ _).bind fun _ _ _ => follows_pure _

theorem follows_repairScript (interpreter : Interpreter σ) (script : String) (d : Diagnosis) :
    Follows k j (repairScript interpreter script d) (repairScript interpreter script d) s := by
  have same : (if d.kind.isCompile then d.line.bind (Repair.propose? script ·.toNat) else none) =
      d.repair? script := rfl
  unfold repairScript
  rw [same]
  cases d.repair? script with
  | none => exact follows_pure _
  | some candidate =>
    refine (follows_compile interpreter candidate).bind fun failure s₁ _ => ?_
    cases failure <;> exact follows_pure _

theorem follows_mend (interpreter : Interpreter σ) (config : Config) (script : String)
    (d : Diagnosis) :
    Follows k j (mend interpreter config script d) (mend interpreter config script d) s := by
  unfold mend
  split_ifs
  · refine Follows.bind (Follows.stage ?_) fun r s₁ _ => follows_pure _
    exact follows_repairScript interpreter script d
  · exact follows_pure _

theorem follows_requestContext (config : Config) (script : String) :
    Follows k j (requestContext config script) (requestContext config script) s := rfl

end

/-- The clock tells the deadlines of a request alike as long as its run lasts. -/
def TellsRunAlike (k : Nat) (config : Config) (clock : Nat) : Prop :=
  ∀ t, clock ≤ t → t ≤ runDeadline clock config.timeoutMs → TellsAlike k config.timeoutMs t

theorem le_runDeadline (clock limit : Nat) : clock ≤ runDeadline clock limit := by
  unfold runDeadline deadline?
  split_ifs <;> simp

section

variable {k : Nat} {j : List Entry} {s : Session σ} (interpreter : Interpreter σ) (config : Config)

theorem follows_runAndDeliver (p : Progress) (script : String)
    (alike : TellsRunAlike k config s.clock) :
    Follows k j (runAndDeliver interpreter config p script)
      (runAndDeliver interpreter config (p.later k) script) s := by
  have begins := le_runDeadline s.clock config.timeoutMs
  have run : Follows k j (do
        runScript interpreter script (← requestContext config script) config.timeoutMs)
      (do runScript interpreter script (← requestContext config script) config.timeoutMs)
      (s.enter .execute) := by
    refine (follows_requestContext config script).bind fun c s₁ hs₁ => ?_
    obtain rfl : s.enter .execute = s₁ := congrArg Prod.snd hs₁
    exact follows_runScript interpreter script c (alike s.clock (Nat.le_refl _) begins)
  have ran : Meets (do
        runScript interpreter script (← requestContext config script) config.timeoutMs)
      (s.enter .execute)
      (Ran script (config.context script s.sandbox) config.timeoutMs (s.enter .execute)) :=
    meets_runScript interpreter script (config.context script s.sandbox) _ _
  refine run.stage.bind fun b s₁ hs₁ => ?_
  have after : s.clock ≤ s₁.clock ∧ s₁.clock ≤ runDeadline s.clock config.timeoutMs := by
    have staged : Meets (stage .execute do
        runScript interpreter script (← requestContext config script) config.timeoutMs) s _ :=
      meets_stage ran
    obtain ⟨-, -, es₁, s₂, leads, ran, -, hs₂⟩ := staged
    rw [hs₁] at hs₂
    have clock : s₁.clock = s.clock + time es₁ := by
      obtain rfl : s₁ = s₂.leave .execute := hs₂
      exact leads.clock
    have intime := ran.time_le_runDeadline
    change time es₁ ≤ runDeadline s.clock config.timeoutMs - s.clock at intime
    omega
  obtain ⟨⟨result, printed, c⟩, executeMs⟩ := b
  cases result with
  | failure d => exact follows_deliverReport config (p.executed printed executeMs) d
  | success pdfs =>
    refine Follows.bind (Follows.stage ?_) fun r s₂ _ => ?_
    · exact follows_resolve interpreter c pdfs printed (alike s₁.clock after.1 after.2)
    · obtain ⟨⟨resolution, c'⟩, resolveMs⟩ := r
      cases resolution with
      | delivered delivery =>
        exact follows_deliver config ((p.executed printed executeMs).resolved resolveMs) delivery
      | failed d =>
        exact follows_deliverReport config ((p.executed printed executeMs).resolved resolveMs) d
      | beyondClock => exact follows_pure _

/-- A request behind its beginning does the same when it begins later. -/
theorem follows_checkAndRun (p : Progress) (script : String)
    (alike : TellsRunAlike k config s.clock) :
    Follows k j (checkAndRun interpreter config p script)
      (checkAndRun interpreter config (p.later k) script) s := by
  refine (Follows.stage (follows_diagnose interpreter script)).bind fun b s₁ hs₁ => ?_
  have still₁ : s₁.clock = s.clock := by
    have staged : Meets (stage .diagnose (diagnose interpreter script)) s _ :=
      meets_stage (meets_diagnose interpreter script (s.enter .diagnose))
    obtain ⟨es, leads, es₁, s₂, -, ⟨failure, -, rfl⟩, rfl, -⟩ := staged
    rw [hs₁] at leads
    simpa [Stage.around, compiling, Entry.duration] using leads.clock
  obtain ⟨failure, diagnoseMs⟩ := b
  cases failure with
  | none =>
    exact follows_runAndDeliver interpreter config (p.diagnosed diagnoseMs) script
      (still₁.symm ▸ alike)
  | some d =>
    refine (follows_mend interpreter config script d).bind fun r s₂ hs₂ => ?_
    have still₂ : s₂.clock = s.clock := by
      obtain ⟨es, leads, mended⟩ := meets_mend interpreter config script d s₁
      rw [hs₂] at leads
      simpa [mended.time_eq, still₁] using leads.clock
    cases r with
    | none => exact follows_deliverReport config (p.diagnosed diagnoseMs) d
    | some fixed =>
      refine (follows_tell _).bind fun _ s₃ hs₃ => ?_
      obtain rfl : s₂.note (.told (.fixProposed d fixed)) = s₃ := congrArg Prod.snd hs₃
      have alike₃ : TellsRunAlike k config s₂.clock := still₂.symm ▸ alike
      exact follows_runAndDeliver interpreter config ((p.diagnosed diagnoseMs).mended d fixed) fixed
        alike₃

end

end Conversion

end ScriptPress
