import Mathlib.Data.List.TakeWhile
import ScriptPress.Proofs.AutoInvocation
import ScriptPress.Proofs.NestedCapture
import ScriptPress.Proofs.Opening

/-!
# Captured output

What a script prints is captured while it runs, and travels with the request to whichever document
is delivered. What functions of it print when they are called is captured as well, and dropped. The
sink that was in place before a capture is in place again behind it, also if time was up.

## Main definitions

* `duringRun` — what happened while a script ran.
* `HasRun` — one run stands among entries.

## Main statements

* `Converted.stdout` — an output has the text that was printed during the run.
* `convert_stdout` — so it is for every request, and captures leave no sink behind.
-/

namespace ScriptPress

open Conversion

variable {σ : Type} {config : Config}

/-! ## During the run -/

def InterpreterCall.isExecute : InterpreterCall → Bool
  | execute _ _ => true
  | _ => false

def Entry.beginsRun (e : Entry) : Bool := e.call?.any (·.isExecute)

def Entry.endsRun : Entry → Bool
  | answered (.execute _ _ _) => true
  | _ => false

theorem Entry.endsRun_of_byScript {e : Entry} (h : e.byScript) : e.endsRun = false := by
  cases e <;> first | rfl | cases h

def duringRun (es : List Entry) : List Entry :=
  ((es.dropWhile fun e => !e.beginsRun).drop 1).takeWhile fun e => !e.endsRun

theorem duringRun_of_idle {es : List Entry} (idle : ∀ e ∈ es, e.beginsRun = false) :
    duringRun es = [] := by
  have none : (es.dropWhile fun e => !e.beginsRun) = [] :=
    List.dropWhile_eq_nil_iff.2 fun e mem => by simp [idle e mem]
  rw [duringRun, none]
  rfl

/-- The first run among entries, and what the script does in it. -/
inductive HasRun (played : List Entry) : List Entry → Prop
  | intro (script : String) (ended : Ended) (before behind : List Entry)
      (idle : ∀ e ∈ before, e.beginsRun = false) (byScript : ∀ e ∈ played, e.byScript) :
      HasRun played (before ++ runEntries script played ended behind)

namespace HasRun

variable {played es : List Entry}

theorem append (h : HasRun played es) (rest : List Entry) : HasRun played (es ++ rest) := by
  cases h with
  | intro script ended before behind idle byScript =>
    rw [List.append_assoc, runEntries_append]
    exact .intro script ended before _ idle byScript

theorem append_idle {before : List Entry} (h : HasRun played es)
    (idle : ∀ e ∈ before, e.beginsRun = false) : HasRun played (before ++ es) := by
  cases h with
  | intro script ended before' behind idle' byScript =>
    rw [← List.append_assoc]
    exact .intro script ended _ behind (List.forall_mem_append.2 ⟨idle, idle'⟩) byScript

theorem around (h : HasRun played es) (stage : Stage) : HasRun played (stage.around es) := by
  have started : ∀ e ∈ [Entry.told (.started stage)], e.beginsRun = false :=
    List.forall_mem_singleton.2 rfl
  exact (h.append _).append_idle started

/-- What a script does while it runs is what happens meanwhile. -/
theorem duringRun_eq (h : HasRun played es) : duringRun es = played := by
  cases h with
  | intro script ended before behind idle byScript =>
    have begins : (before ++ runEntries script played ended behind).dropWhile
        (fun e => !e.beginsRun) = runEntries script played ended behind := by
      rw [List.dropWhile_append_of_pos fun e mem => by simp [idle e mem]]
      rfl
    have goesOn : ∀ e ∈ played, (!e.endsRun) = true := fun e mem => by
      simp [Entry.endsRun_of_byScript (byScript e mem)]
    rw [duringRun, begins, runEntries, List.drop_one, List.tail_cons,
      List.takeWhile_append_of_pos goesOn]
    exact List.append_nil played

end HasRun

/-! ## One run only -/

/-- A list is cut in one way at its first element of a kind. -/
theorem append_cons_unique {α : Type} {p : α → Bool} {xs xs' ys ys' : List α} {y y' : α}
    (same : xs ++ y :: ys = xs' ++ y' :: ys') (before : ∀ x ∈ xs, p x = false)
    (before' : ∀ x ∈ xs', p x = false) (here : p y = true) (here' : p y' = true) :
    xs = xs' ∧ y = y' ∧ ys = ys' := by
  obtain ⟨zs, rfl, -⟩ | equal | ⟨zs, rfl, -⟩ := append_cons_cases same
  · exact absurd here (Bool.eq_false_iff.1 (before' y (by simp)))
  · exact equal
  · exact absurd here' (Bool.eq_false_iff.1 (before y' (by simp)))

/-- Entries tell in one way of the first stage in which a script runs. -/
theorem around_runEntries_unique {before before' played played' rest rest' : List Entry}
    {behind behind' : List Entry} {script script' : String} {ended ended' : Ended}
    (same : before ++ (Stage.execute.around (runEntries script played ended rest) ++ behind) =
      before' ++ (Stage.execute.around (runEntries script' played' ended' rest') ++ behind'))
    (idle : ∀ e ∈ before, e.beginsRun = false) (idle' : ∀ e ∈ before', e.beginsRun = false)
    (byScript : ∀ e ∈ played, e.byScript) (byScript' : ∀ e ∈ played', e.byScript) :
    before = before' ∧ script = script' ∧ played = played' ∧ ended = ended' ∧
      rest ++ .told (.completed .execute) :: behind =
        rest' ++ .told (.completed .execute) :: behind' := by
  have cut (before played rest behind : List Entry) (script : String) (ended : Ended) :
      before ++ (Stage.execute.around (runEntries script played ended rest) ++ behind) =
        (before ++ [.told (.started .execute)]) ++ .called (.execute script script) :: (played ++
          .answered (.execute script script ended) ::
            (rest ++ .told (.completed .execute) :: behind)) := by
    simp [Stage.around, runEntries]
  have begins {before : List Entry} (idle : ∀ e ∈ before, e.beginsRun = false) :
      ∀ e ∈ before ++ [.told (.started .execute)], e.beginsRun = false :=
    List.forall_mem_append.2 ⟨idle, List.forall_mem_singleton.2 rfl⟩
  have goesOn {played : List Entry} (byScript : ∀ e ∈ played, e.byScript) :
      ∀ e ∈ played, e.endsRun = false := fun e mem => Entry.endsRun_of_byScript (byScript e mem)
  rw [cut, cut] at same
  obtain ⟨front, called, same⟩ := append_cons_unique same (begins idle) (begins idle') rfl rfl
  obtain ⟨rfl, answered, rest⟩ :=
    append_cons_unique same (goesOn byScript) (goesOn byScript') rfl rfl
  obtain ⟨rfl, -⟩ := List.append_inj' front rfl
  cases called
  cases answered
  exact ⟨rfl, rfl, rfl, rfl, rest⟩

/-! ## Before the run -/

/-- As many runs begin as are called for. -/
theorem Tells.countP_beginsRun {es : List Entry} {xs : List Exchange} (h : Tells es xs) :
    es.countP Entry.beginsRun = xs.countP (·.call.isExecute) := by
  calc es.countP Entry.beginsRun
      = (es.filterMap Entry.call?).countP (·.isExecute) := by
        rw [List.countP_filterMap]
        refine List.countP_congr fun e _ => ?_
        cases called : e.call? <;> simp [Entry.beginsRun, called]
    _ = (xs.map Exchange.call).countP (·.isExecute) := by rw [h.called]
    _ = xs.countP (·.call.isExecute) := List.countP_map

/-- No script runs while a request only compiles. -/
theorem Tells.idle {es : List Entry} {xs : List Exchange} (h : Tells es xs)
    (compiles : ∀ x ∈ xs, x.isCompile) : ∀ e ∈ es, e.beginsRun = false := by
  have none : xs.countP (·.call.isExecute) = 0 := by
    refine List.countP_eq_zero.2 fun x mem => ?_
    have compile := compiles x mem
    cases x with
    | compile => exact Bool.false_ne_true
    | execute => cases compile
    | invoke => cases compile
  rw [← h.countP_beginsRun, List.countP_eq_zero] at none
  exact fun e mem => Bool.eq_false_iff.2 (none e mem)

theorem Opened.idle {source : String} {s : Session σ} {script : Option String} {p : Progress}
    {es : List Entry} (h : Opened config source s script p es) :
    ∀ e ∈ es, e.beginsRun = false := by
  obtain ⟨xs, tells, compiles⟩ := h.tells
  exact tells.idle compiles

/-- Nothing is printed as a request opens. -/
theorem Opened.stdout {source : String} {s : Session σ} {script : Option String} {p : Progress}
    {es : List Entry} (h : Opened config source s script p es) : p.stdout = "" := by
  cases h <;> rfl

/-- A script that is to run was compiled. -/
theorem Opened.compiled {source script : String} {s : Session σ} {p : Progress} {es : List Entry}
    (h : Opened config source s (some script) p es) : .answered (.compile script none) ∈ es := by
  cases h with
  | compiles => simp [Stage.around, compiling]
  | repaired _ _ _ mended =>
    cases mended with
    | right => simp [Stage.around, compiling]

/-! ## One run -/

theorem Performance.countP_isExecute {script : String} {xs : List Exchange}
    (h : Performance script xs) : xs.countP (·.call.isExecute) = 1 := by
  cases h with
  | @intro ended invokes functions _ =>
    have none : invokes.countP (·.call.isExecute) = 0 := by
      refine List.countP_eq_zero.2 fun x mem => ?_
      have function := functions x mem
      cases x with
      | compile => cases function
      | execute => cases function
      | invoke => exact Bool.false_ne_true
    rw [List.countP_cons, none]
    rfl

/-- At most one script is run. -/
theorem Dialogue.countP_isExecute_le {script : String} {xs : List Exchange}
    (h : Dialogue config script xs) : xs.countP (·.call.isExecute) ≤ 1 := by
  cases h with
  | compiles performed =>
    rw [List.countP_cons, performed.countP_isExecute]
    exact Nat.le_refl 1
  | unrepaired => exact Nat.zero_le 1
  | failsAgain => exact Nat.zero_le 1
  | repaired _ _ performed =>
    rw [List.countP_cons, List.countP_cons, performed.countP_isExecute]
    exact Nat.le_refl 1

theorem Converted.countP_beginsRun_le {source : String} {s s' : Session σ}
    {result : Except ConversionError Output} {es : List Entry}
    (h : Converted config source s result es s') : es.countP Entry.beginsRun ≤ 1 := by
  obtain ⟨xs, tells, dialogue⟩ := h.tells
  rw [tells.countP_beginsRun]
  split at dialogue
  · simp [dialogue]
  · exact dialogue.countP_isExecute_le

/-! ## The text of an output -/

theorem Reported.stdout {p : Progress} {d : Diagnosis} {s s' : Session σ} {o : Output}
    {es : List Entry} (h : Reported config p d s (.ok o) es s') : o.stdout = p.stdout := by
  cases h
  rfl

theorem Delivered.stdout {p : Progress} {delivery : Delivery} {s s' : Session σ} {o : Output}
    {es : List Entry} (h : Delivered config p delivery s (.ok o) es s') : o.stdout = p.stdout := by
  cases h with
  | unread _ _ _ reported => exact reported.stdout
  | delivered => rfl

/-- However a run ends, what is captured is what was printed during it. -/
theorem Ran.hasRun {script printed : String} {c c' : Context} {limit : Nat} {s s' : Session σ}
    {result : RunResult} {es : List Entry} (h : Ran script c limit s (result, printed, c') es s')
    (same : c.script = script) : ∃ played, HasRun played es ∧ printed = spoken played := by
  have hasRun {limit : Nat} {ended : Ended} {es : List Entry}
      (calls : Calls limit (.execute script c.script ended) es)
      (captured : Captured c es printed c') :
      ∃ played, HasRun played es ∧ printed = spoken played := by
    rw [same] at calls
    obtain ⟨played, rfl, byScript, captured⟩ := calls.exists_runEntries captured
    exact ⟨played, .intro script ended [] [] (List.forall_mem_nil _) byScript, captured.printed⟩
  cases h with
  | timedOut calls captured => exact hasRun calls captured
  | raised _ calls captured => exact hasRun calls captured
  | unlisted _ calls captured =>
    obtain ⟨played, run, text⟩ := hasRun calls captured
    exact ⟨played, run.append _, text⟩
  | listed calls captured =>
    obtain ⟨played, run, text⟩ := hasRun calls captured
    exact ⟨played, run.append _, text⟩

/-- Whatever becomes of a run, the output has what was printed during it. -/
theorem Conducted.stdout {p : Progress} {script : String} {s s' : Session σ} {o : Output}
    {es : List Entry} (h : Conducted config p script s (.ok o) es s') :
    ∃ played, HasRun played es ∧ o.stdout = spoken played := by
  have same := script_context config script s.sandbox
  cases h with
  | failed _ ran _ reported =>
    obtain ⟨played, run, text⟩ := ran.hasRun same
    exact ⟨played, (run.around _).append _, reported.stdout.trans text⟩
  | unresolved _ _ ran _ _ _ reported =>
    obtain ⟨played, run, text⟩ := ran.hasRun same
    exact ⟨played, (run.around _).append _, reported.stdout.trans text⟩
  | resolved _ _ ran _ _ _ delivered =>
    obtain ⟨played, run, text⟩ := ran.hasRun same
    exact ⟨played, (run.around _).append _, delivered.stdout.trans text⟩

theorem Converted.stdout {source : String} {s s' : Session σ} {o : Output} {es : List Entry}
    (h : Converted config source s (.ok o) es s') :
    o.stdout = spoken (duringRun es) ∧
      ((∀ script, .answered (.compile script none) ∉ es) → o.stdout = "") := by
  cases h.parted with
  | reported opened _ reported =>
    have empty : o.stdout = "" := reported.stdout.trans opened.stdout
    refine ⟨?_, fun _ => empty⟩
    rw [duringRun_of_idle, spoken_nil, empty]
    refine List.forall_mem_append.2 ⟨opened.idle, ?_⟩
    exact reported.tells.idle (List.forall_mem_nil _)
  | conducted opened _ conducted =>
    obtain ⟨played, run, text⟩ := conducted.stdout
    refine ⟨?_, fun uncompiled => ?_⟩
    · rw [(run.append_idle opened.idle).duringRun_eq, text]
    · exact absurd (List.mem_append_left _ opened.compiled) (uncompiled _)

/-! ## Captures -/

theorem Captured.sink {c c' : Context} {es : List Entry} {printed : String}
    (h : Captured c es printed c') : c'.sink = c.sink := by
  rw [h.context]

section

variable (interpreter : Interpreter σ) (deadline : Nat) (c : Context) (s : Session σ)

/-- A capture of a run takes what is printed, and leaves the sink that was in place before. -/
theorem execute_captured (script : String) :
    let r := (execute interpreter deadline script c s).1
    Captured c (entries (execute interpreter deadline script c) s) r.2.1 r.2.2 :=
  (meets_execute interpreter deadline script c s).run.2.2

/-- A capture of a call takes what is printed, and leaves the sink that was in place before. -/
theorem invoke_captured (function : String) (arg : Option String) :
    let r := (invoke interpreter deadline function arg c s).1
    Captured c (entries (invoke interpreter deadline function arg c) s) r.2.1 r.2.2 :=
  (meets_invoke interpreter deadline function arg c s).run.2.2

end

/-! ## Requests -/

/-- At most one script is run for a request. Whatever comes of it, the output has exactly what was
printed from the call until the script returned, raised, or was out of time, from first to last; and
nothing if no script compiled. A capture of a run or of a call hands out what was printed meanwhile,
and the sink in the context behind it is the one from before, however it ended. -/
theorem convert_stdout (interpreter : Interpreter σ) (config : Config) (source : String)
    (s : Session σ) :
    let es := entries (convert interpreter config source) s
    es.countP Entry.beginsRun ≤ 1 ∧
    (∀ o, (convert interpreter config source s).1 = .ok o →
      o.stdout = spoken (duringRun es) ∧
        ((∀ script, .answered (.compile script none) ∉ es) → o.stdout = "")) ∧
    (∀ deadline script c s₁,
      let capture := execute interpreter deadline script c
      (capture s₁).1.2.1 = spoken (entries capture s₁) ∧ (capture s₁).1.2.2.sink = c.sink) ∧
    ∀ deadline function arg c s₁,
      let capture := invoke interpreter deadline function arg c
      (capture s₁).1.2.1 = spoken (entries capture s₁) ∧ (capture s₁).1.2.2.sink = c.sink := by
  intro es
  obtain ⟨-, converted⟩ := (meets_convert interpreter config source s).run
  refine ⟨converted.countP_beginsRun_le, fun o ok => ?_, fun deadline script c s₁ => ?_,
    fun deadline function arg c s₁ => ?_⟩
  · rw [ok] at converted
    exact converted.stdout
  · have captured := execute_captured interpreter deadline c s₁ script
    exact ⟨captured.printed, captured.sink⟩
  · have captured := invoke_captured interpreter deadline c s₁ function arg
    exact ⟨captured.printed, captured.sink⟩

/-- An interpreter whose runs print nothing that can be seen, and whose functions print a letter and
save a document. -/
def Interpreter.chatty : Interpreter Unit where
  name := "chatty"
  compile _ state := (none, state)
  execute _ _ state :=
    .define "f" (.print " " (.print "\n" (.finish (.ok ()) state)))
  invoke _ _ _ state := .print "b" (.write "a.pdf" [65] fun _ => .finish (.ok ()) state)

/-- What a function printed is not in the output that it left. -/
theorem chatty_stdout :
    let request := convert .chatty .default "pass"
    ∃ o, (request emptySession).1 = .ok o ∧ o.outcome = .autoInvoked "f" ∧
      spoken (entries request emptySession) = " \nb" ∧
      spoken (duringRun (entries request emptySession)) = " \n" ∧ o.stdout = " \n" := by
  intro request
  have delivered : ((request emptySession).1.toOption.map (·.outcome)) =
      some (.autoInvoked "f") := by
    decide +kernel
  have printed : spoken (duringRun (entries request emptySession)) = " \n" := by decide +kernel
  cases ok : (request emptySession).1 with
  | error e => simp [ok, Except.toOption] at delivered
  | ok o =>
    have outcome : o.outcome = .autoInvoked "f" := by
      simpa [ok, Except.toOption] using delivered
    have text := ((convert_stdout .chatty .default "pass" emptySession).2.1 o ok).1
    exact ⟨o, rfl, outcome, by decide +kernel, printed, text.trans printed⟩

end ScriptPress
