import ScriptPress.Proofs.Dialogue
import ScriptPress.Proofs.ScriptLine

/-!
# The lines of diagnoses

The line of a diagnosis is the one that the interpreter reported, a line of the script. Its number
is that of the source line it came from when something is left of the first source line, and else
too small by the number of source lines in front of the script.

## Main definitions

* `Exchange.line?` — the line that the interpreter reports when a call is over.
* `reportedLine` — the line that it reported for the failure that an output tells of.

## Main statements

* `Converted.line` — the line of a delivered diagnosis.
* `diagnosisLine_offset` — that line, in the script and in the source.
-/

namespace ScriptPress

open Conversion Source Text

variable {σ : Type} {config : Config}

/-! ## Reported lines -/

def Ended.line? : Ended → Option UInt64
  | raised e => e.userLine?
  | _ => none

def Exchange.line? : Exchange → Option UInt64
  | compile _ failure => failure.bind (·.line)
  | execute _ _ ended => ended.line?
  | invoke _ _ ended => ended.line?

def Exchange.isExecute : Exchange → Bool
  | execute _ _ _ => true
  | _ => false

/-- The line that the interpreter reported for the failure that an output tells of. A report is
about the run, if the script ran; any other diagnosis is about the first compilation. -/
def reportedLine (outcome : Outcome) (xs : List Exchange) : Option UInt64 :=
  match xs.find? Exchange.isExecute with
  | some x => if outcome = .fallback then x.line? else xs.head?.bind Exchange.line?
  | none => xs.head?.bind Exchange.line?

@[simp] theorem line_ofCompileFailure (code : String) (failure : CompileFailure) :
    (Diagnosis.ofCompileFailure code failure).line = failure.line := by
  unfold Diagnosis.ofCompileFailure
  cases failure.kind <;> rfl

@[simp] theorem line_ofException (code : String) (e : RuntimeException) :
    (Diagnosis.ofException code e).line = e.userLine? := by
  unfold Diagnosis.ofException
  split <;> simp [Diagnosis.ofFinding]

/-! ## Along the courses of a request -/

theorem Ran.exists_ended {script : String} {c : Context} {limit : Nat} {s s' : Session σ}
    {result : RunResult} {rest : String × Context} {es : List Entry}
    (h : Ran script c limit s (result, rest) es s') :
    ∃ ended, Tells es [.execute script c.script ended] ∧ match result with
      | .failure d => d.line = ended.line?
      | .success _ => ended.line? = none := by
  have listing (ok : Bool) : Tells [.accessed .request .list ok] [] := ⟨rfl, rfl⟩
  cases h with
  | timedOut calls => exact ⟨_, calls.tells, rfl⟩
  | raised e calls => exact ⟨_, calls.tells, line_ofException script e⟩
  | unlisted _ calls => exact ⟨_, calls.tells.append (listing _), rfl⟩
  | listed calls => exact ⟨_, calls.tells.append (listing _), rfl⟩

theorem Reported.output {p : Progress} {d : Diagnosis} {s s' : Session σ} {output : Output}
    {es : List Entry} (h : Reported config p d s (.ok output) es s') :
    output.outcome = .fallback ∧ output.diagnosis = some d := by
  cases h
  exact ⟨rfl, rfl⟩

theorem Delivered.output {p : Progress} {delivery : Delivery} {s s' : Session σ} {output : Output}
    {es : List Entry} (h : Delivered config p delivery s (.ok output) es s') :
    output.outcome = .fallback ∧ output.diagnosis.bind (·.line) = none ∨
      output.outcome = delivery.outcome ∧ output.diagnosis = p.repaired.map (·.2) := by
  cases h with
  | unread _ _ _ reported =>
    obtain ⟨outcome, diagnosis⟩ := reported.output
    exact .inl ⟨outcome, by rw [diagnosis]; rfl⟩
  | delivered => exact .inr ⟨rfl, rfl⟩

theorem savedOutcome_ne_fallback (c : Context) : savedOutcome c ≠ .fallback := by
  unfold savedOutcome
  split <;> simp

theorem Resolved.line {c : Context} {pdfs : List String} {printed : String}
    {options : ResolveOptions} {s s' : Session σ} {resolution : Resolution} {c' : Context}
    {es : List Entry} (h : Resolved c pdfs printed options s (resolution, c') es s') :
    match resolution with
    | .delivered delivery => delivery.outcome ≠ .fallback
    | .failed d => d.line = none
    | .beyondClock => True := by
  cases h with
  | saved => exact savedOutcome_ne_fallback c
  | typeset => exact nofun
  | produced => exact nofun
  | beyondClock => trivial
  | _ => rfl

/-- The diagnosis of a script that ran is about its run, or it is the one that was there before. -/
theorem Conducted.line {p : Progress} {script : String} {s s' : Session σ} {output : Output}
    {es : List Entry} (h : Conducted config p script s (.ok output) es s') :
    ∃ ended invokes, Tells es (.execute script script ended :: invokes) ∧
      output.diagnosis.bind (·.line) = if output.outcome = .fallback then ended.line?
        else (p.repaired.map (·.2)).bind (·.line) := by
  have same := script_context config script s.sandbox
  cases h with
  | failed _ ran _ reported =>
    obtain ⟨ended, tells, line⟩ := ran.exists_ended
    obtain ⟨outcome, diagnosis⟩ := reported.output
    rw [same] at tells
    refine ⟨ended, [], (tells.around _).append reported.tells, ?_⟩
    rw [if_pos outcome, diagnosis]
    exact line
  | unresolved _ _ ran _ resolved _ reported =>
    obtain ⟨ended, tells, returned⟩ := ran.exists_ended
    obtain ⟨outcome, diagnosis⟩ := reported.output
    obtain ⟨invokes, tells₁, -⟩ := resolved.tellsInvokes
    rw [same] at tells
    refine ⟨ended, invokes, ?_, ?_⟩
    · simpa using (tells.around _).append ((tells₁.around _).append reported.tells)
    · rw [if_pos outcome, diagnosis, returned]
      exact resolved.line
  | resolved _ _ ran _ resolved _ delivered =>
    obtain ⟨ended, tells, returned⟩ := ran.exists_ended
    obtain ⟨invokes, tells₁, -⟩ := resolved.tellsInvokes
    rw [same] at tells
    refine ⟨ended, invokes, ?_, ?_⟩
    · simpa using (tells.around _).append ((tells₁.around _).append delivered.tells)
    · rcases delivered.output with ⟨outcome, line⟩ | ⟨outcome, diagnosis⟩
      · rw [if_pos outcome, line, returned]
      · rw [if_neg (outcome ▸ resolved.line), diagnosis]
        rfl

theorem Checked.line {p : Progress} {script : String} {s s' : Session σ} {output : Output}
    {es : List Entry} (fresh : p.repaired = none)
    (h : Checked config p script s (.ok output) es s') :
    ∃ xs, Tells es xs ∧ output.diagnosis.bind (·.line) = reportedLine output.outcome xs := by
  cases h with
  | compiles diagnoseMs _ conducted =>
    obtain ⟨ended, invokes, tells, line⟩ := conducted.line
    have unrepaired : (p.diagnosed diagnoseMs).repaired = none := fresh
    refine ⟨_, ((tells_compiling _ _).around _).append tells, ?_⟩
    rw [line, unrepaired]
    rfl
  | @fails _ _ _ _ _ failure _ mended _ reported =>
    have checked := (tells_compiling script failure).around .diagnose
    obtain ⟨outcome, diagnosis⟩ := reported.output
    have line : output.diagnosis.bind (·.line) = failure.line := by
      rw [diagnosis]
      exact line_ofCompileFailure script failure
    cases mended with
    | off => exact ⟨_, (checked.append ⟨rfl, rfl⟩).append reported.tells, line⟩
    | unknown => exact ⟨_, (checked.append ⟨rfl, rfl⟩).append reported.tells, line⟩
    | @wrong fixed again =>
      have rechecked := (tells_compiling fixed (some again)).around .autoFix
      exact ⟨_, (checked.append rechecked).append reported.tells, line⟩
  | @repaired _ _ _ _ _ failure fixed _ mended _ conducted =>
    have checked := (tells_compiling script failure).around .diagnose
    obtain ⟨ended, invokes, tells, line⟩ := conducted.line
    cases mended with
    | right =>
      have rechecked := (tells_compiling fixed none).around .autoFix
      have told : Tells [.told (.fixProposed (.ofCompileFailure script failure) fixed)] [] :=
        ⟨rfl, rfl⟩
      refine ⟨_, ((checked.append rechecked).append told).append tells, ?_⟩
      rw [line]
      split_ifs with outcome
      · simp [reportedLine, List.find?_cons, Exchange.isExecute, outcome, Exchange.line?]
      · simp [reportedLine, List.find?_cons, Exchange.isExecute, outcome, Exchange.line?,
          Progress.mended, Diagnosis.withFix]

/-- The line of a delivered diagnosis is the one that the interpreter reported. -/
theorem Converted.line {source : String} {s s' : Session σ} {output : Output} {es : List Entry}
    (h : Converted config source s (.ok output) es s') :
    output.diagnosis.bind (·.line) =
      reportedLine output.outcome (es.filterMap Entry.exchange?) := by
  cases h with
  | cleaned _ full listed removed _ checked =>
    obtain ⟨xs, tells, line⟩ := checked.line rfl
    have listing : Tells [.accessed .request .list true] [] := ⟨rfl, rfl⟩
    have opening : Tells (Stage.normalize.around []) [] := ⟨rfl, rfl⟩
    have all := (opening.append (listing.append removed.tells)).append tells
    rw [line]
    exact congrArg (reportedLine output.outcome) all.answered.symm

/-- A script that is only checked is compiled first. -/
theorem Conversion.meets_check (interpreter : Interpreter σ) (config : Config) (source : String)
    (s : Session σ) :
    Meets (check interpreter config source) s fun r es _ => ∀ d, r = .ok (some d) →
      (es.filterMap Entry.exchange?).head?.bind Exchange.line? = d.line := by
  have first : ∀ (script : String) (failure : CompileFailure) (es : List Entry),
      ((compiling script (some failure) ++ es).filterMap Entry.exchange?).head?.bind
        Exchange.line? = failure.line := fun _ _ _ => rfl
  unfold check
  dsimp only
  split
  · exact meets_pure (by simp)
  · refine (meets_diagnose interpreter _ s).bind fun r es s₁ _ h => ?_
    obtain ⟨failure, rfl, rfl⟩ := h
    cases failure with
    | none => exact meets_pure (by simp)
    | some failure =>
      dsimp only [Option.map_some]
      split
      · rename_i on
        refine (meets_repairScript interpreter config _ _ s₁ on).bind fun r es' s₂ _ _ => ?_
        cases r with
        | some fixed =>
          refine meets_pure fun d hd => ?_
          cases hd
          rw [List.append_nil, first]
          exact (line_ofCompileFailure _ failure).symm
        | none =>
          refine meets_pure fun d hd => ?_
          cases hd
          rw [List.append_nil, first, line_ofCompileFailure]
      · refine meets_pure fun d hd => ?_
        cases hd
        rw [first, line_ofCompileFailure]

/-! ## Lines of the script and of the source -/

theorem script_eq_clean {source : String} (plain : config.effectiveFontSize = none) :
    (config.script source).toList = clean source.toList none := by
  simp [Config.script, SourceBuffer.new, SourceBuffer.script, plain]

/-- A diagnosis carries the line that the interpreter reported in the script. That line of the
script is what is left of the source line with this number, counted behind the source lines in front
of the script; so the number is that of the source line exactly when there are none of these. -/
theorem diagnosisLine_offset (interpreter : Interpreter σ) (config : Config) (source : String)
    (s : Session σ) (plain : config.effectiveFontSize = none) :
    (∀ output, (convert interpreter config source s).1 = .ok output →
      output.diagnosis.bind (·.line) = reportedLine output.outcome
        ((entries (convert interpreter config source) s).filterMap Entry.exchange?)) ∧
    (∀ d, (check interpreter config source s).1 = .ok (some d) →
      ((entries (check interpreter config source) s).filterMap Entry.exchange?).head?.bind
        Exchange.line? = d.line) ∧
    (∀ n line, lineAt? (config.script source).toList n = some line →
      ∃ line', lineAt? source.toList (leading source.toList + n) = some line' ∧
        clean line' none = trim line) ∧
    (config.script source ≠ "" →
      ((∀ n line, lineAt? (config.script source).toList n = some line →
        ∃ line', lineAt? source.toList n = some line' ∧ clean line' none = trim line) ↔
      leading source.toList = 0)) := by
  rw [script_eq_clean plain]
  refine ⟨fun output ok => ?_, fun d ok => ?_, fun n line => exists_source_line, fun full => ?_⟩
  · obtain ⟨-, converted⟩ := (meets_convert interpreter config source s).run
    rw [ok] at converted
    exact converted.line
  · exact (meets_check interpreter config source s).run.2 d ok
  · apply sameLines_iff
    rw [← script_eq_clean plain]
    simpa using full

/-- An interpreter that finds an error on the first line of every script. -/
def Interpreter.refusing : Interpreter Unit where
  name := "refusing"
  compile _ state := (some ⟨.syntaxError, "invalid syntax", some 1⟩, state)
  execute _ _ state := .finish (.ok ()) state
  invoke _ _ _ state := .finish (.ok ()) state

def fencedScript : String := "```python\nif x\n```"

/-- The one line of the script is the second of its source. -/
theorem diagnosisLine_offset_fenced :
    Config.default.effectiveFontSize = none ∧ leading fencedScript.toList = 1 ∧
      ∃ line', lineAt? fencedScript.toList 2 = some line' ∧
        clean line' none = trim "if x".toList := by
  have main := diagnosisLine_offset .refusing .default fencedScript
    (.new ⟨.inMemory .none, .all⟩ ()) (by decide)
  have script : (Config.default.script fencedScript).toList = "if x".toList := by decide +kernel
  have count : leading fencedScript.toList = 1 := by decide +kernel
  have behind := main.2.2.1 1 "if x".toList (by rw [script]; decide +kernel)
  exact ⟨by decide, count, by rwa [count] at behind⟩

/-- The diagnosis of the fenced script has line 1, on which the script stands; line 1 of the source
is a fence, of which nothing is left. -/
theorem fencedScript_line :
    (let s := Session.new ⟨.inMemory .none, .all⟩ ()
      ∃ d, (check .refusing .default fencedScript s).1.toOption = some (some d) ∧
        d.line = some 1) ∧
    lineAt? (Config.default.script fencedScript).toList 1 = some "if x".toList ∧
    ¬∃ line', lineAt? fencedScript.toList 1 = some line' ∧
      clean line' none = trim "if x".toList := by
  have checked : (check .refusing .default fencedScript
      (.new ⟨.inMemory .none, .all⟩ ())).1.toOption =
      some (some (.ofCompileFailure "if x" ⟨.syntaxError, "invalid syntax", some 1⟩)) := by
    decide +kernel
  have fence : lineAt? fencedScript.toList 1 = some "```python".toList := by decide +kernel
  have nothing : clean "```python".toList none = [] := by decide +kernel
  refine ⟨⟨_, checked, rfl⟩, by decide +kernel, ?_⟩
  rintro ⟨line', hline, hclean⟩
  rw [fence] at hline
  cases hline
  rw [nothing] at hclean
  exact absurd hclean (by decide +kernel)

end ScriptPress
