import ScriptPress.Proofs.ConversionCourse

/-!
# Dialogues

What a request says to the interpreter, call by call: it compiles the script, once more if a repair
is proposed, executes what compiles, and calls functions only of a script that returned.

## Main definitions

* `Tells` — the calls of the interpreter that entries tell of, each with what came of it.
* `Dialogue` — the calls of a request that gets past its beginning.

## Main statements

* `convert_dialogue` — there are no other dialogues.
-/

namespace ScriptPress

open Conversion

variable {σ : Type} {config : Config}

/-! ## Calls that entries tell of -/

/-- Entries tell of calls of the interpreter: of what came of each, and of no call that is not
over. -/
structure Tells (es : List Entry) (xs : List Exchange) : Prop where
  answered : es.filterMap Entry.exchange? = xs
  called : es.filterMap Entry.call? = xs.map Exchange.call

namespace Tells

variable {es es' : List Entry} {xs xs' : List Exchange}

theorem append (h : Tells es xs) (h' : Tells es' xs') : Tells (es ++ es') (xs ++ xs') where
  answered := by rw [List.filterMap_append, h.answered, h'.answered]
  called := by rw [List.filterMap_append, h.called, h'.called, List.map_append]

theorem around (h : Tells es xs) (stage : Stage) : Tells (stage.around es) xs where
  answered := by simp [Stage.around, List.filterMap_cons, Entry.exchange?, h.answered]
  called := by simp [Stage.around, List.filterMap_cons, Entry.call?, h.called]

/-- Entries of running scripts tell of no call. -/
theorem byScript (h : ∀ e ∈ es, e.byScript) : Tells es [] where
  answered := List.filterMap_eq_nil_iff.2 fun e mem => Entry.exchange?_of_byScript (h e mem)
  called := List.filterMap_eq_nil_iff.2 fun e mem => Entry.call?_of_byScript (h e mem)

end Tells

theorem Calls.tells {limit : Nat} {x : Exchange} {es : List Entry} (h : Calls limit x es) :
    Tells es [x] := by
  cases h with
  | intro byScript _ =>
    have played := Tells.byScript byScript
    exact ⟨by simp [List.filterMap_cons, Entry.exchange?, played.answered],
      by simp [List.filterMap_cons, Entry.call?, played.called]⟩

theorem Removals.tells {names : List String} {es : List Entry} (h : Removals names es) :
    Tells es [] := by
  induction h with
  | nil => exact ⟨rfl, rfl⟩
  | cons ok _ ih => exact ⟨ih.answered, ih.called⟩

theorem tells_compiling (script : String) (failure : Option CompileFailure) :
    Tells (compiling script failure) [.compile script failure] := ⟨rfl, rfl⟩

theorem Reported.tells {p : Progress} {d : Diagnosis} {s s' : Session σ}
    {result : Except ConversionError Output} {es : List Entry}
    (h : Reported config p d s result es s') : Tells es [] := by
  cases h <;> exact ⟨rfl, rfl⟩

theorem Delivered.tells {p : Progress} {delivery : Delivery} {s s' : Session σ}
    {result : Except ConversionError Output} {es : List Entry}
    (h : Delivered config p delivery s result es s') : Tells es [] := by
  cases h with
  | unread _ _ _ reported => exact ⟨reported.tells.answered, reported.tells.called⟩
  | _ => exact ⟨rfl, rfl⟩

/-! ## Calls of functions -/

def Exchange.isInvoke : Exchange → Bool
  | invoke _ _ _ => true
  | _ => false

def TellsInvokes (es : List Entry) : Prop := ∃ xs, Tells es xs ∧ ∀ x ∈ xs, x.isInvoke

theorem TellsInvokes.append {es es' : List Entry} (h : TellsInvokes es) (h' : TellsInvokes es') :
    TellsInvokes (es ++ es') := by
  obtain ⟨xs, tells, invokes⟩ := h
  obtain ⟨xs', tells', invokes'⟩ := h'
  exact ⟨xs ++ xs', tells.append tells', List.forall_mem_append.2 ⟨invokes, invokes'⟩⟩

theorem Tells.silent {es : List Entry} (h : Tells es []) : TellsInvokes es :=
  ⟨[], h, by simp⟩

theorem Calls.tellsInvokes {limit : Nat} {function : String} {arg : Option String} {ended : Ended}
    {es : List Entry} (h : Calls limit (.invoke function arg ended) es) : TellsInvokes es :=
  ⟨_, h.tells, by simp [Exchange.isInvoke]⟩

theorem Tried.tellsInvokes {deadline : Nat} {function : String} {args : List (Option String)}
    {s s' : Session σ} {result : Attempt × Context} {es : List Entry}
    (h : Tried deadline function args s result es s') : TellsInvokes es := by
  have listing (ok : Bool) : TellsInvokes [.accessed .request .list ok] := Tells.silent ⟨rfl, rfl⟩
  induction h with
  | exhausted => exact Tells.silent ⟨rfl, rfl⟩
  | timedOut calls => exact calls.tellsInvokes
  | raised _ calls _ _ ih => exact calls.tellsInvokes.append ih
  | unlisted calls => exact calls.tellsInvokes.append (listing _)
  | barren calls => exact calls.tellsInvokes.append (listing _)
  | produced calls => exact calls.tellsInvokes.append (listing _)

theorem TriedAll.tellsInvokes {deadline : Nat} {functions : List String} {s s' : Session σ}
    {result : Attempt × Context} {es : List Entry}
    (h : TriedAll deadline functions s result es s') : TellsInvokes es := by
  induction h with
  | exhausted => exact Tells.silent ⟨rfl, rfl⟩
  | next tried _ _ ih => exact tried.tellsInvokes.append ih
  | decided tried => exact tried.tellsInvokes

theorem Resolved.tellsInvokes {c : Context} {pdfs : List String} {printed : String}
    {options : ResolveOptions} {s s' : Session σ} {result : Resolution × Context}
    {es : List Entry} (h : Resolved c pdfs printed options s result es s') : TellsInvokes es := by
  cases h with
  | unwritten _ _ _ written => cases written; exact Tells.silent ⟨rfl, rfl⟩
  | typeset _ _ _ written => cases written; exact Tells.silent ⟨rfl, rfl⟩
  | produced _ _ _ _ tried => exact tried.tellsInvokes
  | fruitless _ _ _ _ _ tried => exact tried.tellsInvokes
  | _ => exact Tells.silent ⟨rfl, rfl⟩

/-! ## Dialogues of a request -/

/-- A script was executed in a context of its own, and then functions of it were called, if it
returned. -/
inductive Performance (script : String) : List Exchange → Prop
  | intro {ended : Ended} {invokes : List Exchange} (functions : ∀ x ∈ invokes, x.isInvoke)
      (returned : invokes ≠ [] → ended = .returned) :
      Performance script (.execute script script ended :: invokes)

def CompileFailure.repair? (failure : CompileFailure) (script : String) : Option String :=
  failure.line.bind (Repair.propose? script ·.toNat)

/-- What a request and the interpreter say to each other about a script. -/
inductive Dialogue (config : Config) (script : String) : List Exchange → Prop
  | compiles {performance : List Exchange} (performed : Performance script performance) :
      Dialogue config script (.compile script none :: performance)
  | unrepaired {failure : CompileFailure}
      (alone : config.autoFix = false ∨ failure.repair? script = none) :
      Dialogue config script [.compile script (some failure)]
  | failsAgain {failure again : CompileFailure} {fixed : String} (on : config.autoFix = true)
      (proposed : failure.repair? script = some fixed) :
      Dialogue config script [.compile script (some failure), .compile fixed (some again)]
  | repaired {failure : CompileFailure} {fixed : String} {performance : List Exchange}
      (on : config.autoFix = true) (proposed : failure.repair? script = some fixed)
      (performed : Performance fixed performance) :
      Dialogue config script
        (.compile script (some failure) :: .compile fixed none :: performance)

def Exchange.isCompile : Exchange → Bool
  | compile _ _ => true
  | _ => false

theorem Performance.filter_isCompile {script : String} {xs : List Exchange}
    (h : Performance script xs) : xs.filter Exchange.isCompile = [] := by
  cases h with
  | intro functions returned =>
    refine List.filter_eq_nil_iff.2 (List.forall_mem_cons.2 ⟨by simp [Exchange.isCompile], ?_⟩)
    intro x mem
    have := functions x mem
    cases x <;> simp_all [Exchange.isInvoke, Exchange.isCompile]

theorem Performance.eq_of_mem {script x context : String} {ended : Ended} {xs : List Exchange}
    (h : Performance script xs) (mem : .execute x context ended ∈ xs) :
    x = script ∧ context = script := by
  cases h with
  | intro functions returned =>
    rcases List.mem_cons.1 mem with same | mem
    · simp_all
    · cases functions _ mem

/-- What is executed passed the last compilation, in a context of its own. -/
theorem Dialogue.compiled {script x context : String} {ended : Ended} {xs : List Exchange}
    (h : Dialogue config script xs) (mem : .execute x context ended ∈ xs) :
    context = x ∧ (xs.filter Exchange.isCompile).getLast? = some (.compile x none) := by
  cases h with
  | compiles performed =>
    obtain ⟨rfl, rfl⟩ := performed.eq_of_mem (by simpa using mem)
    rw [List.filter_cons_of_pos rfl, performed.filter_isCompile]
    exact ⟨rfl, rfl⟩
  | unrepaired => simp at mem
  | failsAgain => simp at mem
  | repaired _ _ performed =>
    obtain ⟨rfl, rfl⟩ := performed.eq_of_mem (by simpa using mem)
    rw [List.filter_cons_of_pos rfl, List.filter_cons_of_pos rfl, performed.filter_isCompile]
    exact ⟨rfl, rfl⟩

/-- A script is compiled at most once more. -/
theorem Dialogue.length_compiles_le {script : String} {xs : List Exchange}
    (h : Dialogue config script xs) : (xs.filter Exchange.isCompile).length ≤ 2 := by
  cases h with
  | compiles performed =>
    rw [List.filter_cons_of_pos rfl, performed.filter_isCompile]
    exact Nat.le_succ 1
  | unrepaired => exact Nat.le_succ 1
  | failsAgain => exact Nat.le_refl 2
  | repaired _ _ performed =>
    rw [List.filter_cons_of_pos rfl, List.filter_cons_of_pos rfl, performed.filter_isCompile]
    exact Nat.le_refl 2

theorem repair?_ofCompileFailure (script : String) (failure : CompileFailure) :
    (Diagnosis.ofCompileFailure script failure).repair? script = failure.repair? script := by
  obtain ⟨kind, message, line⟩ := failure
  cases kind <;> rfl

theorem script_context (config : Config) (script : String) (sandbox : Sandbox) :
    (config.context script sandbox).script = script := by
  unfold Config.context
  split_ifs <;> rfl

theorem Ran.tells {script : String} {c : Context} {limit : Nat} {s s' : Session σ}
    {result : RunResult × String × Context} {es : List Entry}
    (h : Ran script c limit s result es s') :
    ∃ ended, Tells es [.execute script c.script ended] ∧
      (result.1.isSuccess → ended = .returned) := by
  have listing (ok : Bool) : Tells [.accessed .request .list ok] [] := ⟨rfl, rfl⟩
  cases h with
  | timedOut calls => exact ⟨_, calls.tells, by simp [RunResult.isSuccess]⟩
  | raised _ calls => exact ⟨_, calls.tells, by simp [RunResult.isSuccess]⟩
  | unlisted _ calls => exact ⟨_, calls.tells.append (listing _), fun _ => rfl⟩
  | listed calls => exact ⟨_, calls.tells.append (listing _), fun _ => rfl⟩

/-- A run that succeeded and the search after it. -/
theorem Ran.performance {script : String} {c : Context} {limit : Nat} {s s₁ : Session σ}
    {pdfs : List String} {rest : String × Context} {es es₁ : List Entry}
    (h : Ran script c limit s (.success pdfs, rest) es s₁) (same : c.script = script)
    (resolved : TellsInvokes es₁) :
    ∃ xs, Tells (Stage.execute.around es ++ Stage.resolve.around es₁) xs ∧
      Performance script xs := by
  obtain ⟨ended, tells, returned⟩ := h.tells
  obtain ⟨invokes, tells₁, functions⟩ := resolved
  rw [same] at tells
  exact ⟨_, (tells.around _).append (tells₁.around _), .intro functions fun _ => returned rfl⟩

theorem Conducted.performance {p : Progress} {script : String} {s s' : Session σ}
    {result : Except ConversionError Output} {es : List Entry}
    (h : Conducted config p script s result es s') :
    ∃ xs, Tells es xs ∧ Performance script xs := by
  have same := script_context config script s.sandbox
  cases h with
  | failed _ ran _ reported =>
    obtain ⟨ended, tells, -⟩ := ran.tells
    rw [same] at tells
    exact ⟨_, (tells.around _).append reported.tells, .intro (by simp) (by simp)⟩
  | unresolved _ _ ran _ resolved _ reported =>
    obtain ⟨xs, tells, performed⟩ := ran.performance same resolved.tellsInvokes
    refine ⟨xs, ?_, performed⟩
    simpa using tells.append reported.tells
  | resolved _ _ ran _ resolved _ delivered =>
    obtain ⟨xs, tells, performed⟩ := ran.performance same resolved.tellsInvokes
    refine ⟨xs, ?_, performed⟩
    simpa using tells.append delivered.tells
  | beyondClock ran _ resolved => exact ran.performance same resolved.tellsInvokes

theorem Checked.dialogue {p : Progress} {script : String} {s s' : Session σ}
    {result : Except ConversionError Output} {es : List Entry}
    (h : Checked config p script s result es s') :
    ∃ xs, Tells es xs ∧ Dialogue config script xs := by
  cases h with
  | compiles _ _ conducted =>
    obtain ⟨xs, tells, performed⟩ := conducted.performance
    exact ⟨_, ((tells_compiling _ _).around _).append tells, .compiles performed⟩
  | @fails _ _ _ _ _ failure _ mended _ reported =>
    have checked := (tells_compiling script failure).around .diagnose
    cases mended with
    | off off =>
      exact ⟨_, (checked.append ⟨rfl, rfl⟩).append reported.tells, .unrepaired (.inl off)⟩
    | unknown on hopeless =>
      rw [repair?_ofCompileFailure] at hopeless
      exact ⟨_, (checked.append ⟨rfl, rfl⟩).append reported.tells, .unrepaired (.inr hopeless)⟩
    | @wrong fixed again on proposed =>
      rw [repair?_ofCompileFailure] at proposed
      have rechecked := (tells_compiling fixed (some again)).around .autoFix
      exact ⟨_, (checked.append rechecked).append reported.tells, .failsAgain on proposed⟩
  | @repaired _ _ _ _ _ failure fixed _ mended _ conducted =>
    have checked := (tells_compiling script failure).around .diagnose
    obtain ⟨xs, tells, performed⟩ := conducted.performance
    cases mended with
    | right on proposed =>
      rw [repair?_ofCompileFailure] at proposed
      have rechecked := (tells_compiling fixed none).around .autoFix
      exact ⟨_, ((checked.append rechecked).append ⟨rfl, rfl⟩).append tells,
        .repaired on proposed performed⟩

theorem Converted.tells {source : String} {s s' : Session σ}
    {result : Except ConversionError Output} {es : List Entry}
    (h : Converted config source s result es s') :
    ∃ xs, Tells es xs ∧
      if config.script source = "" ∨ s.sandbox.store.list.1.isOk = false then xs = []
      else Dialogue config (config.script source) xs := by
  cases h with
  | empty empty => exact ⟨[], ⟨rfl, rfl⟩, by simp [empty]⟩
  | unlisted full refused =>
    exact ⟨[], ⟨rfl, rfl⟩, by simp [refused, Except.isOk, Except.toBool]⟩
  | cleaned _ full listed removed _ checked =>
    obtain ⟨xs, tells, dialogue⟩ := checked.dialogue
    have listing : Tells [.accessed .request .list true] [] := ⟨rfl, rfl⟩
    have opening : Tells (Stage.normalize.around []) [] := ⟨rfl, rfl⟩
    refine ⟨xs, ?_, by simpa [full, listed] using dialogue⟩
    exact (opening.append (listing.append removed.tells)).append tells

/-- The interpreter is not called at all if nothing is left of the source or the first listing
fails. Else the calls of a request are a dialogue about the script that is left. At most two scripts
are compiled, and only what passed the last compilation is executed. -/
theorem convert_dialogue (interpreter : Interpreter σ) (config : Config) (source : String)
    (s : Session σ) :
    let es := entries (convert interpreter config source) s
    let xs := es.filterMap Entry.exchange?
    es.filterMap Entry.call? = xs.map Exchange.call ∧
      (if config.script source = "" ∨ s.sandbox.store.list.1.isOk = false then xs = []
        else Dialogue config (config.script source) xs) ∧
      (xs.filter Exchange.isCompile).length ≤ 2 ∧
      ∀ x context ended, .execute x context ended ∈ xs →
        context = x ∧ (xs.filter Exchange.isCompile).getLast? = some (.compile x none) := by
  intro es xs
  obtain ⟨-, converted⟩ := (meets_convert interpreter config source s).run
  obtain ⟨_, ⟨rfl, called⟩, dialogue⟩ := converted.tells
  refine ⟨called, dialogue, ?_⟩
  split_ifs at dialogue
  · have none : xs = [] := dialogue
    simp [none]
  · exact ⟨dialogue.length_compiles_le, fun _ _ _ => dialogue.compiled⟩

end ScriptPress
