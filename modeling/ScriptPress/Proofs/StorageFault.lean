import ScriptPress.Proofs.CallOrder

/-!
# Storage faults

A listing, a reading or a writing of a request fails. Behind a run, where the printout is written
and where the document is read, that is reported as a failure of the machinery. Behind a call of a
function it is not: the search is given up as if the function had left nothing, and the report says
that the script saved no document.

## Main definitions

* `Intact` — no listing, reading or writing of the request failed.
* `UnlistedCall` — the listing behind a call of a function failed.
* `BlamesMachinery` — an error, or a report of a failure of the machinery.
* `Attributed` — what a request makes of its storage faults.

## Main statements

* `Converted.attributed` — there is nothing else that a request makes of them.
* `storage_fault_blamed_iff` — storage faults are blamed on the machinery, but for a listing behind
  a call of a function.
* `unlisted_call_blamed_on_script` — a request in which such a listing fails.
-/

namespace ScriptPress

open Conversion Text

variable {σ : Type} {config : Config}

/-! ## Faults -/

/-- Whether an entry tells of a listing, a reading or a writing by the request that failed. -/
def Entry.isStorageFault : Entry → Bool
  | accessed .request (.remove _) _ => false
  | accessed .request _ ok => !ok
  | _ => false

def Intact (es : List Entry) : Prop := ∀ e ∈ es, e.isStorageFault = false

instance (es : List Entry) : Decidable (Intact es) := List.decidableBAll _ _

theorem intact_append {es es' : List Entry} : Intact (es ++ es') ↔ Intact es ∧ Intact es' :=
  List.forall_mem_append

theorem intact_around {stage : Stage} {es : List Entry} : Intact (stage.around es) ↔ Intact es := by
  refine Stage.forall_mem_around.trans ⟨fun h => h.2.1, fun h => ⟨rfl, h, rfl⟩⟩

/-- A function was called and returned, and the listing behind the call failed. -/
def UnlistedCall (es : List Entry) : Prop :=
  ∃ function arg,
    [.answered (.invoke function arg .returned), .accessed .request .list false] <:+: es

theorem UnlistedCall.mono {es es' : List Entry} (h : UnlistedCall es) (part : es <:+: es') :
    UnlistedCall es' := by
  obtain ⟨function, arg, there⟩ := h
  exact ⟨function, arg, there.trans part⟩

theorem UnlistedCall.append {es : List Entry} (h : UnlistedCall es) (before : List Entry) :
    UnlistedCall (before ++ es) :=
  h.mono (List.suffix_append _ _).isInfix

theorem UnlistedCall.around {es : List Entry} (h : UnlistedCall es) (stage : Stage) :
    UnlistedCall (stage.around es) :=
  h.mono ⟨[_], [_], rfl⟩

theorem UnlistedCall.exists_failed {es : List Entry} (h : UnlistedCall es) :
    ∃ e ∈ es, e.isFailedListing = true := by
  obtain ⟨function, arg, there⟩ := h
  exact ⟨_, there.subset (List.mem_cons_of_mem _ List.mem_cons_self), rfl⟩

theorem not_intact_of_failed {es : List Entry} {e : Entry} (mem : e ∈ es)
    (failed : e.isFailedListing = true) : ¬Intact es := by
  intro intact
  have sound := intact e mem
  unfold Entry.isFailedListing at failed
  split at failed
  · cases sound
  · cases failed

theorem Intact.listed {es : List Entry} (h : Intact es) : ∀ e ∈ es, e.isFailedListing = false :=
  fun _ mem => Bool.eq_false_iff.2 fun failed => not_intact_of_failed mem failed h

/-- Where every listing succeeds, so does the one behind each call. -/
theorem not_unlistedCall_of_listed {es : List Entry} (h : ∀ e ∈ es, e.isFailedListing = false) :
    ¬UnlistedCall es := by
  intro unlisted
  obtain ⟨e, mem, failed⟩ := unlisted.exists_failed
  exact Bool.false_ne_true ((h e mem).symm.trans failed)

theorem Uninvoked.not_mem {es : List Entry} (h : Uninvoked es) (function : String)
    (arg : Option String) (ended : Ended) : .answered (.invoke function arg ended) ∉ es := by
  obtain ⟨xs, tells, others⟩ := h
  intro mem
  have told : Exchange.invoke function arg ended ∈ es.filterMap Entry.exchange? :=
    List.mem_filterMap.2 ⟨_, mem, rfl⟩
  rw [tells.answered] at told
  cases others _ told

/-- Where no function is called, no listing stands behind a call. -/
theorem Uninvoked.not_unlistedCall {es : List Entry} (h : Uninvoked es) : ¬UnlistedCall es := by
  rintro ⟨function, arg, there⟩
  exact h.not_mem _ _ _ (there.subset List.mem_cons_self)

/-- Entries in front that tell of no call of a function make no listing one behind a call. -/
theorem UnlistedCall.of_append {before es : List Entry} (h : UnlistedCall (before ++ es))
    (uninvoked : Uninvoked before) : UnlistedCall es := by
  obtain ⟨function, arg, front, back, split⟩ := h
  rw [List.append_assoc] at split
  refine ⟨function, arg, ?_⟩
  rcases List.append_eq_append_iff.1 split with ⟨as, rfl, there⟩ | ⟨bs, -, there⟩
  · cases as with
    | nil => exact ⟨[], back, by simpa using there⟩
    | cons a as =>
      obtain ⟨rfl, -⟩ := List.cons.inj there
      exact absurd (List.mem_append_right front List.mem_cons_self) (uninvoked.not_mem _ _ _)
  · exact ⟨bs, back, by rw [there, List.append_assoc]⟩

/-! ## What a request makes of its faults -/

/-- An error, or a report that the machinery failed. -/
inductive BlamesMachinery : Except ConversionError Output → Prop
  | error (e : ConversionError) : BlamesMachinery (.error e)
  | report {o : Output} {d : Diagnosis} (reported : o.outcome = .fallback)
      (told : o.diagnosis = some d) (kind : d.kind = .system) : BlamesMachinery (.ok o)

/-- What a request makes of its storage faults: there are none, or it fails, or reports that the
machinery failed; only where the listing behind a call of a function failed, it reports that the
script left nothing. -/
inductive Attributed (es : List Entry) : Except ConversionError Output → Prop
  | intact {result : Except ConversionError Output} (intact : Intact es) : Attributed es result
  | error (e : ConversionError) : Attributed es (.error e)
  | machinery {o : Output} {d : Diagnosis} (reported : o.outcome = .fallback)
      (told : o.diagnosis = some d) (kind : d.kind = .system) (apart : ¬UnlistedCall es) :
      Attributed es (.ok o)
  | script {o : Output} (reported : o.outcome = .fallback) (told : o.diagnosis = some .noOutput)
      (unlisted : UnlistedCall es) : Attributed es (.ok o)

theorem Attributed.append {es : List Entry} {result : Except ConversionError Output}
    (h : Attributed es result) {before : List Entry} (intact : Intact before)
    (uninvoked : Uninvoked before) : Attributed (before ++ es) result := by
  cases h with
  | intact none => exact .intact (intact_append.2 ⟨intact, none⟩)
  | error e => exact .error e
  | machinery reported told kind apart =>
    exact .machinery reported told kind fun unlisted => apart (unlisted.of_append uninvoked)
  | script reported told unlisted => exact .script reported told (unlisted.append before)

/-! ## The parts of a request -/

theorem Entry.isStorageFault_of_byScript {e : Entry} (h : e.byScript) :
    e.isStorageFault = false := by
  unfold Entry.isStorageFault
  split
  · rfl
  · cases h
  · rfl

theorem Calls.intact {limit : Nat} {x : Exchange} {es : List Entry} (h : Calls limit x es) :
    Intact es :=
  h.forall_mem rfl (fun _ => Entry.isStorageFault_of_byScript) rfl

theorem Removals.intact {names : List String} {es : List Entry} (h : Removals names es) :
    Intact es := by
  induction h with
  | nil => exact List.forall_mem_nil _
  | cons _ _ ih => exact List.forall_mem_cons.2 ⟨rfl, ih⟩

/-- A run that succeeded was listed. -/
theorem Ran.intact {script : String} {c : Context} {limit : Nat} {s s' : Session σ}
    {pdfs : List String} {rest : String × Context} {es : List Entry}
    (h : Ran script c limit s (.success pdfs, rest) es s') : Intact es := by
  cases h with
  | listed calls => exact intact_append.2 ⟨calls.intact, List.forall_mem_singleton.2 rfl⟩

/-- A fault of a run that failed is one of its listing. -/
theorem Ran.intact_or {script : String} {c : Context} {limit : Nat} {s s' : Session σ}
    {d : Diagnosis} {rest : String × Context} {es : List Entry}
    (h : Ran script c limit s (.failure d, rest) es s') : Intact es ∨ d.kind = .system := by
  cases h with
  | timedOut calls => exact .inl calls.intact
  | raised _ calls => exact .inl calls.intact
  | unlisted => exact .inr rfl

/-- Calling a function is given up where the listing behind a call fails, and only there does the
store fail. -/
theorem Tried.intact_or {deadline : Nat} {function : String} {args : List (Option String)}
    {s s' : Session σ} {result : Attempt × Context} {es : List Entry}
    (h : Tried deadline function args s result es s') :
    Intact es ∨ result.1 = .stopped ∧ UnlistedCall es := by
  have listed {es : List Entry} (intact : Intact es) :
      Intact (es ++ [.accessed .request .list true]) :=
    intact_append.2 ⟨intact, List.forall_mem_singleton.2 rfl⟩
  induction h with
  | exhausted => exact .inl (List.forall_mem_nil _)
  | timedOut calls => exact .inl calls.intact
  | raised _ calls _ _ ih =>
    refine ih.imp (fun intact => intact_append.2 ⟨calls.intact, intact⟩) fun stopped => ?_
    exact ⟨stopped.1, stopped.2.append _⟩
  | @unlisted arg _ _ _ _ _ calls =>
    refine .inr ⟨rfl, function, arg, ?_⟩
    cases calls with
    | @intro played =>
      exact ⟨.called (Exchange.invoke function arg .returned).call :: played, [], by simp⟩
  | barren calls => exact .inl (listed calls.intact)
  | produced calls => exact .inl (listed calls.intact)

theorem TriedAll.intact_or {deadline : Nat} {functions : List String} {s s' : Session σ}
    {result : Attempt × Context} {es : List Entry}
    (h : TriedAll deadline functions s result es s') :
    Intact es ∨ result.1 = .stopped ∧ UnlistedCall es := by
  induction h with
  | exhausted => exact .inl (List.forall_mem_nil _)
  | next tried _ _ ih =>
    rcases tried.intact_or with intact | ⟨stopped, -⟩
    · refine ih.imp (fun rest => intact_append.2 ⟨intact, rest⟩) fun stopped => ?_
      exact ⟨stopped.1, stopped.2.append _⟩
    · cases stopped
  | decided tried => exact tried.intact_or

/-- What is found was listed. -/
theorem Resolved.intact {c c' : Context} {pdfs : List String} {printed : String}
    {options : ResolveOptions} {s s' : Session σ} {delivery : Delivery} {es : List Entry}
    (h : Resolved c pdfs printed options s (.delivered delivery, c') es s') : Intact es := by
  cases h with
  | saved => exact List.forall_mem_nil _
  | typeset _ _ _ written =>
    cases written with
    | kept => exact List.forall_mem_singleton.2 rfl
  | produced _ _ _ _ tried =>
    rcases tried.intact_or with intact | ⟨stopped, -⟩
    · exact intact
    · cases stopped

/-- Where nothing is found, the store did not fail; or it refused the printout, or the listing
behind a call of a function. -/
theorem Resolved.intact_or {c c' : Context} {pdfs : List String} {printed : String}
    {options : ResolveOptions} {s s' : Session σ} {d : Diagnosis} {es : List Entry}
    (h : Resolved c pdfs printed options s (.failed d, c') es s') :
    Intact es ∨ (d.kind = .system ∧ ∀ e ∈ es, e.isFailedListing = false) ∨
      d = .noOutput ∧ UnlistedCall es := by
  cases h with
  | undrawn => exact .inl (List.forall_mem_nil _)
  | unwritten _ _ _ written =>
    cases written with
    | refused => exact .inr (.inl ⟨rfl, List.forall_mem_singleton.2 rfl⟩)
  | fruitless _ _ _ _ _ tried =>
    exact tried.intact_or.imp_right fun stopped => .inr ⟨rfl, stopped.2⟩
  | noOutput => exact .inl (List.forall_mem_nil _)

/-- A report that is delivered tells of the failure and was stored and read back. -/
theorem Reported.intact {p : Progress} {d : Diagnosis} {s s' : Session σ} {o : Output}
    {es : List Entry} (h : Reported config p d s (.ok o) es s') :
    Intact es ∧ o.outcome = .fallback ∧ o.diagnosis = some d := by
  cases h with
  | delivered => exact ⟨by simp [Intact, Stage.around, Entry.isStorageFault], rfl, rfl⟩

theorem Reported.listed {p : Progress} {d : Diagnosis} {s s' : Session σ}
    {result : Except ConversionError Output} {es : List Entry}
    (h : Reported config p d s result es s') : ∀ e ∈ es, e.isFailedListing = false := by
  cases h <;> simp [Stage.around, Entry.isFailedListing]

/-- What was found is delivered, or reading it failed, which is reported as a failure of the
machinery. -/
theorem Delivered.intact_or {p : Progress} {delivery : Delivery} {s s' : Session σ} {o : Output}
    {es : List Entry} (h : Delivered config p delivery s (.ok o) es s') :
    Intact es ∨ (∀ e ∈ es, e.isFailedListing = false) ∧ o.outcome = .fallback ∧
      ∃ d, o.diagnosis = some d ∧ d.kind = .system := by
  cases h with
  | unread _ _ _ reported =>
    obtain ⟨intact, fellBack, told⟩ := reported.intact
    exact .inr ⟨List.forall_mem_cons.2 ⟨rfl, intact.listed⟩, fellBack, _, told, rfl⟩
  | delivered => exact .inl (by simp [Intact, Entry.isStorageFault])

/-! ## A whole request -/

theorem Opened.intact {source : String} {s : Session σ} {script : Option String} {p : Progress}
    {es : List Entry} (h : Opened config source s script p es) : Intact es := by
  obtain ⟨removals, rest, rfl, removed, others⟩ := h.exists_removals
  refine intact_append.2 ⟨by decide, intact_append.2 ⟨removed.intact, fun e mem => ?_⟩⟩
  have other := others e mem
  cases e with
  | accessed => cases other
  | _ => rfl

theorem Conducted.attributed {p : Progress} {script : String} {s s' : Session σ}
    {result : Except ConversionError Output} {es : List Entry}
    (h : Conducted config p script s result es s') : Attributed es result := by
  rcases result with e | o
  · exact .error e
  have same := script_context config script s.sandbox
  cases h with
  | failed _ ran _ reported =>
    obtain ⟨intact, fellBack, told⟩ := reported.intact
    have silent := ((ran.failedRun same).uninvoked.around .execute).append
      (.of_tells_nil reported.tells)
    rcases ran.intact_or with sound | machinery
    · exact .intact (intact_append.2 ⟨intact_around.2 sound, intact⟩)
    · exact .machinery fellBack told machinery silent.not_unlistedCall
  | @unresolved _ _ _ _ _ es es₁ _ _ _ _ _ _ _ ran _ resolved _ reported =>
    obtain ⟨intact, fellBack, told⟩ := reported.intact
    have run : Intact (Stage.execute.around es) := intact_around.2 ran.intact
    rcases resolved.intact_or with sound | ⟨machinery, listed⟩ | ⟨rfl, unlisted⟩
    · exact .intact (intact_append.2 ⟨run, intact_append.2 ⟨intact_around.2 sound, intact⟩⟩)
    · have search : ∀ e ∈ Stage.resolve.around es₁, e.isFailedListing = false :=
        Stage.forall_mem_around.2 ⟨rfl, listed, rfl⟩
      have all := List.forall_mem_append.2
        ⟨run.listed, List.forall_mem_append.2 ⟨search, reported.listed⟩⟩
      exact .machinery fellBack told machinery (not_unlistedCall_of_listed all)
    · have search : UnlistedCall (Stage.resolve.around es₁) := unlisted.around _
      exact .script fellBack told ((search.mono (List.prefix_append _ _).isInfix).append _)
  | resolved _ _ ran _ resolved _ delivered =>
    have run := intact_append.2
      ⟨(@intact_around .execute _).2 ran.intact, (@intact_around .resolve _).2 resolved.intact⟩
    rw [← List.append_assoc]
    rcases delivered.intact_or with sound | ⟨listed, fellBack, d, told, machinery⟩
    · exact .intact (intact_append.2 ⟨run, sound⟩)
    · exact .machinery fellBack told machinery
        (not_unlistedCall_of_listed (List.forall_mem_append.2 ⟨run.listed, listed⟩))

/-- There is nothing else that a request makes of its storage faults. -/
theorem Converted.attributed {source : String} {s s' : Session σ}
    {result : Except ConversionError Output} {es : List Entry}
    (h : Converted config source s result es s') : Attributed es result := by
  cases h.parted with
  | unopened e => exact .error e
  | @reported _ _ _ _ _ _ result opened _ reported =>
    rcases result with e | o
    · exact .error e
    · exact .intact (intact_append.2 ⟨opened.intact, reported.intact.1⟩)
  | conducted opened _ conducted => exact conducted.attributed.append opened.intact opened.uninvoked

theorem Attributed.blamesMachinery_iff {es : List Entry} {result : Except ConversionError Output}
    (h : Attributed es result) (fault : ¬Intact es) :
    BlamesMachinery result ↔ (UnlistedCall es → ∃ e, result = .error e) := by
  cases h with
  | intact intact => exact absurd intact fault
  | error e => exact ⟨fun _ _ => ⟨e, rfl⟩, fun _ => .error e⟩
  | machinery reported told kind apart =>
    exact ⟨fun _ unlisted => absurd unlisted apart, fun _ => .report reported told kind⟩
  | script _ told unlisted =>
    constructor
    · rintro (_ | ⟨_, told', kind⟩)
      obtain rfl := Option.some.inj (told.symm.trans told')
      cases kind
    · intro excused
      obtain ⟨e, failed⟩ := excused unlisted
      cases failed

/-- A request does not end well where the store failed it. -/
theorem Attributed.of_unlistedCall {es : List Entry} {o : Output} (h : Attributed es (.ok o))
    (unlisted : UnlistedCall es) : o.outcome = .fallback ∧ o.diagnosis = some .noOutput := by
  cases h with
  | intact intact =>
    obtain ⟨e, mem, failed⟩ := unlisted.exists_failed
    exact absurd intact (not_intact_of_failed mem failed)
  | machinery _ _ _ apart => exact absurd unlisted apart
  | script reported told => exact ⟨reported, told⟩

theorem Attributed.unlisted_of_noOutput {es : List Entry} {o : Output} {d : Diagnosis}
    (h : Attributed es (.ok o)) (told : o.diagnosis = some d) (kind : d.kind = .noOutput) :
    (∃ e ∈ es, e.isFailedListing = true) ↔ UnlistedCall es := by
  refine ⟨fun ⟨e, mem, failed⟩ => ?_, UnlistedCall.exists_failed⟩
  cases h with
  | intact intact => exact absurd intact (not_intact_of_failed mem failed)
  | machinery _ told' kind' =>
    obtain rfl := Option.some.inj (told.symm.trans told')
    simp [kind] at kind'
  | script _ _ unlisted => exact unlisted

/-- Where a listing, a reading or a writing of a request failed, the request fails or reports that
the machinery failed, but for one case: where the listing behind a call of a function failed and
the request is answered, it reports that the script saved no document. So a request reports that
in spite of a failed listing only if that was the listing behind a call. -/
theorem storage_fault_blamed_iff (interpreter : Interpreter σ) (config : Config) (source : String)
    (s : Session σ) :
    let result := (convert interpreter config source s).1
    let es := entries (convert interpreter config source) s
    (¬Intact es → (BlamesMachinery result ↔ (UnlistedCall es → ∃ e, result = .error e))) ∧
      (∀ o, result = .ok o → UnlistedCall es →
        o.outcome = .fallback ∧ o.diagnosis = some .noOutput) ∧
      ∀ o d, result = .ok o → o.diagnosis = some d → d.kind = .noOutput →
        ((∃ e ∈ es, e.isFailedListing = true) ↔ UnlistedCall es) := by
  intro result es
  have attributed : Attributed es result :=
    (meets_convert interpreter config source s).run.2.attributed
  refine ⟨attributed.blamesMachinery_iff, fun o answered unlisted => ?_,
    fun o d answered told kind => ?_⟩
  · exact (answered ▸ attributed).of_unlistedCall unlisted
  · exact (answered ▸ attributed).unlisted_of_noOutput told kind

def Interpreter.defining : Interpreter Unit where
  name := "defining"
  compile _ state := (none, state)
  execute _ _ state := .define "f" (.finish (.ok ()) state)
  invoke _ _ _ state := .finish (.ok ()) state

/-- A session whose store will refuse one of the listings, counted from 0. -/
def unlistedSession (listing : Nat) : Session Unit :=
  .new ⟨.inMemory (.ofNumbers fun call => if call = .list then [listing] else []), .all⟩ ()

/-- The listing behind the run is reported as a failure of the machinery, the one behind the first
call is not. -/
theorem defining_blamed :
    let request := convert .defining .default "pass"
    (¬Intact (entries request (unlistedSession 1)) ∧
      BlamesMachinery (request (unlistedSession 1)).1) ∧
    (UnlistedCall (entries request (unlistedSession 2)) ∧
      ∃ o, (request (unlistedSession 2)).1 = .ok o ∧ o.diagnosis = some .noOutput ∧
        ∃ e ∈ entries request (unlistedSession 2), e.isFailedListing = true) := by
  intro request
  have fault : ¬Intact (entries request (unlistedSession 1)) := by decide +kernel
  have uncalled : Uninvoked (entries request (unlistedSession 1)) :=
    ⟨[.compile "pass" none, .execute "pass" "pass" .returned],
      ⟨by decide +kernel, by decide +kernel⟩, by decide⟩
  have blamed := (storage_fault_blamed_iff .defining .default "pass" (unlistedSession 1)).1 fault
  refine ⟨⟨fault, blamed.2 fun unlisted => absurd unlisted uncalled.not_unlistedCall⟩, ?_⟩
  have call : ((entries request (unlistedSession 2)).drop 15).take 2 =
      [.answered (.invoke "f" none .returned), .accessed .request .list false] := by decide +kernel
  have unlisted : UnlistedCall (entries request (unlistedSession 2)) :=
    ⟨"f", none, call ▸ (List.take_prefix _ _).isInfix.trans (List.drop_suffix _ _).isInfix⟩
  have answered : (request (unlistedSession 2)).1.toOption.isSome := by decide +kernel
  obtain ⟨-, reported, barren⟩ :=
    storage_fault_blamed_iff .defining .default "pass" (unlistedSession 2)
  cases ok : (request (unlistedSession 2)).1 with
  | error e => simp [ok, Except.toOption] at answered
  | ok o =>
    have told := (reported o ok unlisted).2
    exact ⟨unlisted, o, rfl, told, (barren o _ ok told rfl).2 unlisted⟩

/-- A listing of a request failed, and its report says that the script saved no document. -/
theorem unlisted_call_blamed_on_script :
    let request := convert .defining .default "pass"
    .accessed .request .list false ∈ entries request (unlistedSession 2) ∧
      (request (unlistedSession 2)).1.toOption.map
        (fun o => (o.outcome, o.diagnosis.map (·.kind))) = some (.fallback, some .noOutput) := by
  decide +kernel

end ScriptPress
