import ScriptPress.Proofs.Journal

/-!
# Work

Work on a session is described by what it adds to the journal: one rule for work that is done in
sequence, and one for each of the few steps that requests are made of.

## Main definitions

* `Conversion.Meets` — work is described by a property of its result, of the entries that it adds,
  and of the session after it.
* `Conversion.entries` — the entries that work adds.
* `Calls` — entries that tell of a call of the interpreter, from its beginning to its end.
* `Removals` — entries that tell of files being dropped one after the other.

## Main statements

* `Conversion.Meets.bind` — work in sequence.
* `Conversion.meets_execute`, `Conversion.meets_invoke` — calls of the interpreter.
* `Conversion.meets_removePdfs` — dropping the documents.
-/

namespace ScriptPress

/-! ## Pieces of a journal -/

/-- Entries of a call of the interpreter that runs for at most `limit` milliseconds: the call, what
the script did, and what came of it. -/
inductive Calls (limit : Nat) (x : Exchange) : List Entry → Prop
  | intro {played : List Entry} (byScript : ∀ e ∈ played, e.byScript)
      (intime : time played ≤ limit) :
      Calls limit x (.called x.call :: (played ++ [.answered x]))

/-- What holds of a call, of all that a script does and of the answer holds of all entries. -/
theorem Calls.forall_mem {P : Entry → Prop} {limit : Nat} {x : Exchange} {es : List Entry}
    (h : Calls limit x es) (called : P (.called x.call)) (scripted : ∀ e : Entry, e.byScript → P e)
    (answered : P (.answered x)) : ∀ e ∈ es, P e := by
  cases h with
  | intro byScript =>
    refine List.forall_mem_cons.2 ⟨called, List.forall_mem_append.2 ⟨fun e mem => ?_, ?_⟩⟩
    · exact scripted e (byScript e mem)
    · exact List.forall_mem_singleton.2 answered

/-- Entries of the request dropping files one after the other. -/
inductive Removals : List String → List Entry → Prop
  | nil : Removals [] []
  | cons {name : String} {names : List String} {es : List Entry} (ok : Bool)
      (rest : Removals names es) :
      Removals (name :: names) (.accessed .request (.remove name) ok :: es)

def Stage.around (stage : Stage) (es : List Entry) : List Entry :=
  .told (.started stage) :: (es ++ [.told (.completed stage)])

theorem Stage.forall_mem_around {P : Entry → Prop} {stage : Stage} {es : List Entry} :
    (∀ e ∈ stage.around es, P e) ↔
      P (.told (.started stage)) ∧ (∀ e ∈ es, P e) ∧ P (.told (.completed stage)) := by
  rw [around, List.forall_mem_cons, List.forall_mem_append, List.forall_mem_singleton]

namespace Session

variable {σ : Type} (stage : Stage) (s : Session σ)

def enter : Session σ := s.note (.told (.started stage))

def leave : Session σ := s.note (.told (.completed stage))

variable {stage s}

/-- Entries of a stage lead from before it to after it. -/
theorem Leads.around {s₁ : Session σ} {es : List Entry}
    (h : (s.enter stage).Leads es s₁) : s.Leads (stage.around es) (s₁.leave stage) := by
  have entered : s.Leads [.told (.started stage)] (s.enter stage) :=
    s.leads_note trivial rfl rfl
  have left : s₁.Leads [.told (.completed stage)] (s₁.leave stage) :=
    s₁.leads_note trivial rfl rfl
  exact entered.trans (h.trans left)

end Session

namespace Conversion

variable {σ α β : Type}

/-- Work on a session adds entries to the journal; they, the result and the session afterwards are
as described. -/
def Meets (x : Conversion σ α) (s : Session σ) (Q : α → List Entry → Session σ → Prop) : Prop :=
  ∃ es, s.Leads es (x s).2 ∧ Q (x s).1 es (x s).2

def entries (x : Conversion σ α) (s : Session σ) : List Entry :=
  (x s).2.journal.drop s.journal.length

section

variable {s : Session σ} {Q Q' : α → List Entry → Session σ → Prop}

theorem Meets.run {x : Conversion σ α} (h : Meets x s Q) :
    s.Leads (entries x s) (x s).2 ∧ Q (x s).1 (entries x s) (x s).2 := by
  obtain ⟨es, leads, q⟩ := h
  have added : entries x s = es := by simp [entries, leads.journal]
  exact added ▸ ⟨leads, q⟩

theorem Meets.mono {x : Conversion σ α} (h : Meets x s Q)
    (imp : ∀ a es s', s.Leads es s' → Q a es s' → Q' a es s') : Meets x s Q' := by
  obtain ⟨es, leads, q⟩ := h
  exact ⟨es, leads, imp _ _ _ leads q⟩

theorem meets_pure {a : α} (h : Q a [] s) : Meets (pure a) s Q := ⟨[], .refl s, h⟩

/-- Work that is done in sequence. -/
theorem Meets.bind {x : Conversion σ β} {f : β → Conversion σ α}
    {R : β → List Entry → Session σ → Prop} (hx : Meets x s R)
    (hf : ∀ b es s₁, s.Leads es s₁ → R b es s₁ →
      Meets (f b) s₁ fun a es' s' => Q a (es ++ es') s') :
    Meets (x >>= f) s Q := by
  obtain ⟨es, leads, r⟩ := hx
  obtain ⟨es', leads', q⟩ := hf _ es _ leads r
  exact ⟨es ++ es', leads.trans leads', q⟩

/-! ## Single steps -/

theorem meets_now_bind {f : Nat → Conversion σ α} (h : Meets (f s.clock) s Q) :
    Meets (now >>= f) s Q := h

theorem meets_get_bind {f : Session σ → Conversion σ α} (h : Meets (f s) s Q) :
    Meets (get >>= f) s Q := h

/-- Noting something that changes neither the store nor the time. -/
theorem meets_note_bind {e : Entry} {f : Unit → Conversion σ α} (fits : e.Fits s.sandbox.store)
    (still : e.effect s.sandbox.store = s.sandbox.store) (instant : e.duration = 0)
    (h : Meets (f ()) (s.note e) fun a es s' => Q a (e :: es) s') : Meets (note e >>= f) s Q := by
  obtain ⟨es, leads, q⟩ := h
  exact ⟨e :: es, (Session.leads_note s fits still instant).trans leads, q⟩

theorem meets_tell_bind {event : Event} {f : Unit → Conversion σ α}
    (h : Meets (f ()) (s.note (.told event)) fun a es s' => Q a (.told event :: es) s') :
    Meets (tell event >>= f) s Q :=
  meets_note_bind trivial rfl rfl h

/-- A stage of a request. -/
theorem meets_stage {x : Conversion σ β} {stage : Stage} {R : β → List Entry → Session σ → Prop}
    (h : Meets x (s.enter stage) R) :
    Meets (Conversion.stage stage x) s fun b es s' => ∃ es₁ s₁,
      (s.enter stage).Leads es₁ s₁ ∧ R b.1 es₁ s₁ ∧ es = stage.around es₁ ∧
        s' = s₁.leave stage := by
  unfold Conversion.stage
  refine meets_now_bind (meets_tell_bind (h.bind fun b es s₁ leads r => ?_))
  exact meets_tell_bind (meets_now_bind (meets_pure ⟨es, s₁, leads, r, rfl, rfl⟩))

/-! ## Calls of the store -/

theorem meets_access {γ : Type} {a : Access} {call : Store → Except StoreError γ × Store}
    (s : Session σ) (h : ∀ st, a.perform st = ((call st).1.isOk, (call st).2)) :
    Meets (modifyGet (Session.access .request a call)) s fun r es s' =>
      es = [.accessed .request a r.isOk] ∧
        call s.sandbox.store = (r, s'.sandbox.store) :=
  ⟨_, Session.leads_access s h, rfl, rfl⟩

/-- What a listing gives is there. -/
theorem meets_listPdfs (s : Session σ) :
    Meets listPdfs s fun r es s' =>
      es = [.accessed .request .list r.isOk] ∧
        match r with
        | .error e => s.sandbox.store.list.1 = .error e
        | .ok pdfs => s.sandbox.store.list.1.isOk ∧ pdfs = s.sandbox.store.documents ∧
          pdfs = s'.sandbox.store.documents := by
  unfold listPdfs Store.pdfsBy list
  refine (meets_access s fun _ => rfl).bind fun r es s₁ leads h => meets_pure ?_
  obtain ⟨rfl, answered⟩ := h
  have listed : s.sandbox.store.list.1 = r := congrArg Prod.fst answered
  have after : s.sandbox.store.list.2 = s₁.sandbox.store := congrArg Prod.snd answered
  cases r with
  | error e => exact ⟨rfl, listed⟩
  | ok names =>
    refine ⟨rfl, by rw [listed]; rfl, (Store.documents_of_list listed).symm, ?_⟩
    rw [← after, Store.documents_list, Store.documents_of_list listed]

theorem meets_read (name : String) (s : Session σ) :
    Meets (read name) s fun r es s' =>
      es = [.accessed .request (.read name) r.isOk] ∧
        ∀ bytes, r = .ok bytes → s.sandbox.store.Holds name bytes ∧
          s'.sandbox.store.Holds name bytes := by
  refine (meets_access s fun _ => rfl).mono fun r es s' _ h => ⟨h.1, fun bytes ok => ?_⟩
  have before : s.sandbox.store.Holds name bytes :=
    Store.holds_of_read ((congrArg Prod.fst h.2).trans ok)
  have after : (s.sandbox.store.read name).2 = s'.sandbox.store := congrArg Prod.snd h.2
  refine ⟨before, ?_⟩
  rw [← after]
  simpa [Store.Holds] using before

theorem meets_write (name : String) (bytes : Bytes) (s : Session σ) :
    Meets (write name bytes) s fun r es s' =>
      es = [.accessed .request (.write name bytes) r.isOk] ∧
        (r = .ok () → s'.sandbox.store.Holds name bytes) := by
  refine (meets_access s fun _ => rfl).mono fun r es s' _ h => ⟨h.1, fun ok => ?_⟩
  have written : (s.sandbox.store.write name bytes).1 = .ok () := (congrArg Prod.fst h.2).trans ok
  have after : (s.sandbox.store.write name bytes).2 = s'.sandbox.store := congrArg Prod.snd h.2
  rw [← after, Store.holds_write_iff, written]
  simp [Except.isOk, Except.toBool]

theorem meets_remove (name : String) (s : Session σ) :
    Meets (remove name) s fun r es _ => es = [.accessed .request (.remove name) r.isOk] :=
  (meets_access s fun _ => rfl).mono fun _ _ _ _ h => h.1

theorem meets_removeEachBy (names : List String) (s : Session σ) :
    Meets (Store.removeEachBy remove names) s fun _ es _ => Removals names es := by
  induction names generalizing s with
  | nil => exact meets_pure .nil
  | cons name names ih =>
    refine (meets_remove name s).bind fun r es s₁ _ h => ?_
    subst h
    cases r with
    | ok _ => exact (ih s₁).bind fun n es' s₂ _ rest => meets_pure (by simpa using .cons _ rest)
    | error _ => exact (ih s₁).mono fun n es' s₂ _ rest => .cons _ rest

/-- Dropping the documents: they are listed, and each that is listed is dropped. -/
theorem meets_removePdfs (s : Session σ) :
    Meets removePdfs s fun r es _ => match r with
      | .error e => es = [.accessed .request .list false] ∧ s.sandbox.store.list.1 = .error e
      | .ok _ => s.sandbox.store.list.1.isOk ∧ ∃ removals,
          Removals s.sandbox.store.documents removals ∧
          es = .accessed .request .list true :: removals := by
  unfold removePdfs Store.removePdfsBy
  refine (meets_listPdfs s).bind fun r es s₁ _ h => ?_
  obtain ⟨rfl, listed⟩ := h
  cases r with
  | error e => exact meets_pure ⟨rfl, listed⟩
  | ok names =>
    obtain ⟨ok, rfl, -⟩ := listed
    exact (meets_removeEachBy _ s₁).bind fun n es s₂ _ removals =>
      meets_pure ⟨ok, es, removals, by simp [Except.isOk, Except.toBool]⟩

/-! ## Calls of the interpreter -/

/-- A call of the interpreter: what its job does stands between the entry of the call and that of what
came of it. -/
theorem meets_ask {interpreter : Interpreter σ} (job : Job) {s : Session σ}
    {R : job.Result → List Entry → Session σ → Prop}
    (h : Meets (job.carryOut interpreter) (s.note (.called job.call)) R) :
    Meets (ask interpreter job) s fun r es s' => ∃ es₁ s₁, R r es₁ s₁ ∧
      es = .called job.call :: (es₁ ++ [.answered (job.exchange r)]) ∧
        s' = s₁.note (.answered (job.exchange r)) := by
  refine meets_note_bind trivial rfl rfl (h.bind fun r es s₁ _ met => ?_)
  exact meets_note_bind trivial rfl rfl (meets_pure ⟨es, s₁, met, rfl, rfl⟩)

/-- A script is compiled. -/
theorem meets_compile (interpreter : Interpreter σ) (script : String) (s : Session σ) :
    Meets (compile interpreter script) s fun failure es s' =>
      es = [.called (.compile script), .answered (.compile script failure)] ∧
        s'.sandbox = s.sandbox := by
  let job : Job := .compile script
  have compiled : Meets (job.carryOut interpreter) (s.note (.called job.call)) fun _ es s' =>
      es = [] ∧ s'.sandbox = s.sandbox :=
    ⟨[], Session.leads_state _ _, rfl, rfl⟩
  refine (meets_ask job compiled).mono fun failure es s' _ h => ?_
  obtain ⟨_, s₁, ⟨rfl, same⟩, rfl, rfl⟩ := h
  exact ⟨rfl, same⟩

/-- A program is played. -/
theorem meets_play (deadline : Nat) (program : Program σ) (c : Context) (s : Session σ) :
    Meets (play deadline program c) s fun r es _ =>
      (∀ e ∈ es, e.byScript) ∧ time es ≤ deadline - s.clock ∧ Captured c es r.2.1 r.2.2 := by
  obtain ⟨es, plays, same⟩ := s.plays_run deadline program c.redirect.2
  have captured := captured_restore c es
  rw [← same] at captured
  exact ⟨es, plays.leads, plays.byScript, plays.intime, captured⟩

/-- A script is executed. -/
theorem meets_execute (interpreter : Interpreter σ) (deadline : Nat) (script : String)
    (c : Context) (s : Session σ) :
    Meets (execute interpreter deadline script c) s fun r es _ =>
      Calls (deadline - s.clock) (.execute script c.script (.of r.1)) es ∧
        Captured c es r.2.1 r.2.2 := by
  refine (meets_ask (.execute deadline script c) (meets_get_bind (meets_play _ _ _ _))).mono
    fun r es _ _ h => ?_
  obtain ⟨es₁, -, ⟨byScript, intime, captured⟩, rfl, -⟩ := h
  exact ⟨.intro byScript intime, captured_around_iff.2 captured⟩

/-- A function of a script is called. -/
theorem meets_invoke (interpreter : Interpreter σ) (deadline : Nat) (function : String)
    (arg : Option String) (c : Context) (s : Session σ) :
    Meets (invoke interpreter deadline function arg c) s fun r es _ =>
      Calls (deadline - s.clock) (.invoke function arg (.of r.1)) es ∧
        Captured c es r.2.1 r.2.2 := by
  refine (meets_ask (.invoke deadline function arg c) (meets_get_bind (meets_play _ _ _ _))).mono
    fun r es _ _ h => ?_
  obtain ⟨es₁, -, ⟨byScript, intime, captured⟩, rfl, -⟩ := h
  exact ⟨.intro byScript intime, captured_around_iff.2 captured⟩

end

end Conversion

end ScriptPress
