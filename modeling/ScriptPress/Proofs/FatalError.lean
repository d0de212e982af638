import ScriptPress.Proofs.ConversionCourse

/-!
# Fatal errors

A request fails without a document only if nothing is left of its script, if the files cannot be
listed as it begins, or if the error report cannot be stored or read back. All else that may go
wrong ends in a report.

## Main definitions

* `Config.Timely` — the clock can tell the deadlines of a request.
* `Unreported` — the report could not be stored or read back.
* `Concluded` — the end of a request that got past its beginning.
* `Fatal` — why a request fails without a document.

## Main statements

* `Checked.concluded` — a script that is left is delivered or reported, unless the report fails.
-/

namespace ScriptPress

open Conversion Page

variable {σ : Type} {config : Config}

/-! ## Time -/

/-- The clock can tell the deadline of calls that begin when a run of this request may be over. -/
def Config.Timely (config : Config) (clock : Nat) : Prop :=
  ∀ t, clock ≤ t → t ≤ clock + config.timeoutMs → (deadline? t config.timeoutMs).isSome

theorem Calls.time_le {limit : Nat} {x : Exchange} {es : List Entry} (h : Calls limit x es) :
    time es ≤ limit := by
  cases h with
  | intro byScript intime => simpa [Entry.duration] using intime

theorem runDeadline_sub {clock limit : Nat} (h : (deadline? clock limit).isSome) :
    runDeadline clock limit - clock = limit := by
  unfold runDeadline deadline? at *
  split_ifs at * <;> simp_all

theorem Ran.time_le_runDeadline {script : String} {c : Context} {limit : Nat} {s s' : Session σ}
    {result : RunResult × String × Context} {es : List Entry}
    (h : Ran script c limit s result es s') : time es ≤ runDeadline s.clock limit - s.clock := by
  cases h with
  | timedOut calls => exact calls.time_le
  | raised e calls => exact calls.time_le
  | unlisted e calls => simpa [Entry.duration] using calls.time_le
  | listed calls => simpa [Entry.duration] using calls.time_le

theorem Ran.time_le {script : String} {c : Context} {limit : Nat} {s s' : Session σ}
    {result : RunResult × String × Context} {es : List Entry}
    (h : Ran script c limit s result es s') (timely : (deadline? s.clock limit).isSome) :
    time es ≤ limit := by
  have within := h.time_le_runDeadline
  rwa [runDeadline_sub timely] at within

theorem Ran.clock_le {script : String} {c : Context} {limit : Nat} {s s' : Session σ}
    {result : RunResult × String × Context} {es : List Entry}
    (h : Ran script c limit s result es s') (leads : s.Leads es s')
    (timely : (deadline? s.clock limit).isSome) : s'.clock ≤ s.clock + limit := by
  rw [leads.clock]
  exact Nat.add_le_add_left (h.time_le timely) _

theorem Removals.time_eq {names : List String} {es : List Entry} (h : Removals names es) :
    time es = 0 := by
  induction h with
  | nil => rfl
  | cons ok _ ih => simpa [Entry.duration] using ih

theorem Mended.time_eq {script : String} {d : Diagnosis} {fixed : Option String}
    {es : List Entry} (h : Mended config script d fixed es) :
    time es = 0 := by
  cases h <;> rfl

/-! ## Documents -/

/-- There are names, and they are names of documents. -/
def SomePdfs (names : List String) : Prop := names ≠ [] ∧ ∀ name ∈ names, Store.isPdfName name

/-- If calling functions left something, then documents. -/
def Attempt.Sound : Attempt → Prop
  | produced _ pdfs => SomePdfs pdfs
  | nothing | stopped => True

theorem isPdfName_of_mem_documents {st : Store} {name : String} (h : name ∈ st.documents) :
    Store.isPdfName name :=
  (List.mem_filter.1 h).2

theorem Tried.sound {deadline : Nat} {function : String} {args : List (Option String)}
    {s s' : Session σ} {result : Attempt × Context} {es : List Entry}
    (h : Tried deadline function args s result es s') : result.1.Sound := by
  induction h with
  | raised _ _ _ _ ih => exact ih
  | produced _ _ found => exact ⟨found, fun _ => isPdfName_of_mem_documents⟩
  | _ => trivial

theorem TriedAll.sound {deadline : Nat} {functions : List String} {s s' : Session σ}
    {result : Attempt × Context} {es : List Entry}
    (h : TriedAll deadline functions s result es s') : result.1.Sound := by
  induction h with
  | exhausted => trivial
  | next _ _ _ ih => exact ih
  | decided tried => exact tried.sound

theorem Ran.isPdfName {script : String} {c : Context} {limit : Nat} {s s' : Session σ}
    {pdfs : List String} {rest : String × Context} {es : List Entry}
    (h : Ran script c limit s (.success pdfs, rest) es s') :
    ∀ pdf ∈ pdfs, Store.isPdfName pdf := by
  cases h with
  | listed calls => exact fun _ => isPdfName_of_mem_documents

theorem Resolved.somePdfs {c c' : Context} {pdfs : List String} {printed : String}
    {options : ResolveOptions} {s s' : Session σ} {delivery : Delivery} {es : List Entry}
    (h : Resolved c pdfs printed options s (.delivered delivery, c') es s')
    (listed : ∀ pdf ∈ pdfs, Store.isPdfName pdf) : SomePdfs delivery.artifacts := by
  cases h with
  | saved some => exact ⟨some, listed⟩
  | typeset => exact ⟨List.cons_ne_nil _ _, by decide⟩
  | produced _ _ _ _ tried => exact tried.sound

/-! ## The end of a request -/

/-- The error report could not be stored or read back: the last entry says so. -/
inductive Unreported (es : List Entry) : ConversionError → Prop
  | unwritten (e : StoreError) {bytes : Bytes}
      (last : es.getLast? = some (.accessed .request (.write reportName bytes) false)) :
      Unreported es (.outputWrite reportName (DrawError.storage reportName e.message).message)
  | unread (e : StoreError)
      (last : es.getLast? = some (.accessed .request (.read reportName) false)) :
      Unreported es (.ofStore e)

theorem Unreported.not_faultless {es : List Entry} {e : ConversionError} (h : Unreported es e) :
    ¬Faultless es := by
  intro faultless
  cases h with
  | unwritten _ last => exact faultless _ (List.mem_of_getLast? last)
  | unread _ last => exact faultless _ (List.mem_of_getLast? last)

theorem Unreported.append {es : List Entry} {e : ConversionError} (h : Unreported es e)
    (es₀ : List Entry) : Unreported (es₀ ++ es) e := by
  cases h with
  | unwritten e last => exact .unwritten e (by rw [List.getLast?_append, last]; rfl)
  | unread e last => exact .unread e (by rw [List.getLast?_append, last]; rfl)

/-- A request that got past its beginning delivers a document that is in the store, or its report
could not be stored or read back. -/
inductive Concluded (es : List Entry) (s' : Session σ) :
    Except ConversionError Output → Prop
  | delivered {o : Output} (pdf : Store.isPdfName o.artifact)
      (holds : s'.sandbox.store.Holds o.artifact o.bytes) : Concluded es s' (.ok o)
  | unreported {e : ConversionError} (unreported : Unreported es e) : Concluded es s' (.error e)

theorem Concluded.append {es : List Entry} {s' : Session σ}
    {result : Except ConversionError Output} (h : Concluded es s' result) (es₀ : List Entry) :
    Concluded (es₀ ++ es) s' result := by
  cases h with
  | delivered pdf holds => exact .delivered pdf holds
  | unreported h => exact .unreported (h.append es₀)

theorem isPdfName_reportName : Store.isPdfName reportName := by decide

theorem Reported.concluded {p : Progress} {d : Diagnosis} {s s' : Session σ}
    {result : Except ConversionError Output} {es : List Entry}
    (h : Reported config p d s result es s') : Concluded es s' result := by
  cases h with
  | unwritten e => exact .unreported (.unwritten e rfl)
  | unread e => exact .unreported (.unread e rfl)
  | delivered _ _ holds => exact .delivered isPdfName_reportName holds

theorem Delivered.concluded {p : Progress} {delivery : Delivery} {s s' : Session σ}
    {result : Except ConversionError Output} {es : List Entry}
    (h : Delivered config p delivery s result es s') (some : SomePdfs delivery.artifacts) :
    Concluded es s' result := by
  cases h with
  | nothing absent => exact absurd absent some.1
  | unread e first leads reported => exact reported.concluded.append [_]
  | delivered _ first holds => exact .delivered (some.2 _ (first ▸ List.mem_cons_self)) holds

theorem Conducted.concluded {p : Progress} {script : String} {s s' : Session σ}
    {result : Except ConversionError Output} {es : List Entry}
    (h : Conducted config p script s result es s') :
    Concluded es s' result ∨ result = .error .beyondClock ∧ ¬config.Timely s.clock := by
  cases h with
  | failed _ ran leads reported => exact .inl (reported.concluded.append _)
  | unresolved _ _ ran leads resolved leads₁ reported =>
    exact .inl ((reported.concluded.append _).append _)
  | resolved _ _ ran leads resolved leads₁ delivered =>
    exact .inl (((delivered.concluded (resolved.somePdfs ran.isPdfName)).append _).append _)
  | beyondClock ran leads resolved =>
    -- The deadline is taken when the run is over, at most its time limit after it began.
    refine .inr ⟨rfl, fun timely => ?_⟩
    have began := timely _ (Nat.le_refl _) (Nat.le_add_right _ _)
    have known := timely _ (leads.clock ▸ Nat.le_add_right _ _) (ran.clock_le leads began)
    cases resolved with
    | beyondClock _ _ _ unknown => exact Option.isSome_iff_ne_none.1 known unknown

theorem Checked.concluded {p : Progress} {script : String} {s s' : Session σ}
    {result : Except ConversionError Output} {es : List Entry}
    (h : Checked config p script s result es s') :
    Concluded es s' result ∨ result = .error .beyondClock ∧ ¬config.Timely s.clock := by
  cases h with
  | @compiles s₁ _ _ _ _ leads conducted =>
    have still : s₁.clock = s.clock := by
      simpa [Stage.around, compiling, Entry.duration] using leads.clock
    rw [← still]
    exact conducted.concluded.imp (·.append _) id
  | fails _ mended leads reported => exact .inl (reported.concluded.append _)
  | @repaired s₁ _ _ _ _ _ _ _ mended leads conducted =>
    have still : s₁.clock = s.clock := by
      simpa [Stage.around, compiling, Entry.duration, mended.time_eq] using leads.clock
    rw [← still]
    exact conducted.concluded.imp (·.append _) id

/-! ## Fatal errors -/

/-- Why a request fails without a document; `st` is the store as it begins. -/
inductive Fatal (config : Config) (source : String) (st : Store) (es : List Entry) :
    ConversionError → Prop
  | emptySource (empty : config.script source = "")
      (untouched : ∀ e ∈ es, ∃ event, e = .told event) :
      Fatal config source st es .emptySource
  | unlisted {e : StoreError} (full : config.script source ≠ "") (refused : st.list.1 = .error e)
      (last : es.getLast? = some (.accessed .request .list false)) :
      Fatal config source st es (.ofStore e)
  | unreported {e : ConversionError} (full : config.script source ≠ "")
      (unreported : Unreported es e) : Fatal config source st es e

theorem Fatal.ne_internal {source : String} {st : Store} {es : List Entry} {e : ConversionError}
    (h : Fatal config source st es e) (detail : String) : e ≠ .internal detail := by
  cases h with
  | emptySource => simp
  | @unlisted f => cases f <;> simp [ConversionError.ofStore]
  | unreported _ h =>
    cases h with
    | unwritten f => simp
    | unread f => cases f <;> simp [ConversionError.ofStore]

/-- Every other error comes of a call of the store that failed. -/
theorem Fatal.eq_emptySource {source : String} {st : Store} {es : List Entry} {e : ConversionError}
    (h : Fatal config source st es e) (faultless : Faultless es) :
    e = .emptySource := by
  cases h with
  | emptySource => rfl
  | unlisted _ _ last => exact absurd (List.mem_of_getLast? last) (faultless _)
  | unreported _ h =>
    cases h with
    | unwritten _ last => exact absurd (List.mem_of_getLast? last) (faultless _)
    | unread _ last => exact absurd (List.mem_of_getLast? last) (faultless _)

theorem Converted.fatal {source : String} {s s' : Session σ} {e : ConversionError}
    {es : List Entry} (h : Converted config source s (.error e) es s')
    (timely : config.Timely s.clock) : Fatal config source s.sandbox.store es e := by
  cases h with
  | empty empty => exact .emptySource empty (by simp [Stage.around])
  | unlisted full refused => exact .unlisted full refused (by simp [Stage.around])
  | @cleaned s₁ _ _ _ _ _ full listed removed leads checked =>
    have still : s₁.clock = s.clock := by
      simpa [Stage.around, Entry.duration, removed.time_eq] using leads.clock
    rcases checked.concluded with concluded | ⟨-, untimely⟩
    · cases concluded.append (Stage.normalize.around [] ++ _) with
      | unreported unreported => exact .unreported full unreported
    · exact absurd (still ▸ timely) untimely

theorem Converted.delivered {source : String} {s s' : Session σ} {o : Output} {es : List Entry}
    (h : Converted config source s (.ok o) es s') :
    Store.isPdfName o.artifact ∧ s'.sandbox.store.Holds o.artifact o.bytes := by
  cases h with
  | cleaned _ full listed removed leads checked =>
    rcases checked.concluded with concluded | ⟨late, -⟩
    · cases concluded with
      | delivered pdf holds => exact ⟨pdf, holds⟩
    · cases late

/-- A request ends with a document that is in the store, unless its script is empty, its first
listing fails, or its report cannot be stored or read back. -/
theorem convert_delivers_unless_fatal (interpreter : Interpreter σ) (config : Config)
    (source : String) (s : Session σ) (timely : config.Timely s.clock) :
    let request := convert interpreter config source
    (∀ o, (request s).1 = .ok o →
      Store.isPdfName o.artifact ∧ (request s).2.sandbox.store.Holds o.artifact o.bytes) ∧
    (∀ e, (request s).1 = .error e →
      Fatal config source s.sandbox.store (entries request s) e) ∧
    (∀ detail, (request s).1 ≠ .error (.internal detail)) ∧
    (Faultless (entries request s) → ∀ e, (request s).1 = .error e → e = .emptySource) := by
  intro request
  obtain ⟨-, converted⟩ := (meets_convert interpreter config source s).run
  have fatal : ∀ e, (request s).1 = .error e →
      Fatal config source s.sandbox.store (entries request s) e :=
    fun e failed => (failed ▸ converted).fatal timely
  exact ⟨fun o ok => (ok ▸ converted).delivered, fatal,
    fun detail failed => (fatal _ failed).ne_internal detail rfl,
    fun faultless e failed => (fatal e failed).eq_emptySource faultless⟩

def Interpreter.silent : Interpreter Unit where
  name := "silent"
  compile _ state := (none, state)
  execute _ _ state := .finish (.ok ()) state
  invoke _ _ _ state := .finish (.ok ()) state

/-- On a fresh clock the usual time limit is told. A script that does nothing gets its report, and
the store holds it. -/
theorem convert_pass_delivers_unless_fatal :
    Config.default.Timely 0 ∧
      let s := Session.new ⟨.inMemory .none, .all⟩ ()
      let request := convert .silent .default "pass"
      (∃ o, (request s).1 = .ok o ∧ o.artifact = "error_report.pdf" ∧
        Store.isPdfName o.artifact ∧ (request s).2.sandbox.store.Holds o.artifact o.bytes) ∧
      (∀ e, (request s).1 = .error e →
        Fatal .default "pass" (.inMemory .none) (entries request s) e) ∧
      ∀ detail, (request s).1 ≠ .error (.internal detail) := by
  have timely : Config.default.Timely 0 := by
    intro t _ early
    have limit : Config.default.timeoutMs = 30000 := rfl
    have intime : t + 30000 < clockEnd := by simp only [clockEnd, Nat.pow_eq]; omega
    simp [deadline?, limit, intime]
  have artifact : (convert .silent .default "pass"
      (.new ⟨.inMemory .none, .all⟩ ())).1.toOption.map (·.artifact) = some "error_report.pdf" := by
    decide +kernel
  have main := convert_delivers_unless_fatal .silent .default "pass"
    (.new ⟨.inMemory .none, .all⟩ ()) timely
  refine ⟨timely, ?_, main.2.1, main.2.2.1⟩
  cases ok : (convert .silent .default "pass" (.new ⟨.inMemory .none, .all⟩ ())).1 with
  | error e => simp [ok, Except.toOption] at artifact
  | ok o =>
    have named : o.artifact = "error_report.pdf" := by simpa [ok, Except.toOption] using artifact
    exact ⟨o, rfl, named, main.1 o ok⟩

end ScriptPress
