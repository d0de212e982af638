import ScriptPress.Proofs.DiagnosisLine
import ScriptPress.Proofs.FatalError

/-!
# Consistent outputs

The fields of an output are set at different points of a request, and they fit together whichever
way the request takes: a report has the diagnosis that it is about and no other document, and a
repair is told of wherever a repaired script ran.

The invariant is that what is known of a repair is known as a whole (`Progress.Sound`). The two ends
of a request turn it into a consistent output.

## Main definitions

* `Conversion.Progress.Sound` — the invariant.
* `Output.Consistent` — how the fields of an output fit together.

## Main statements

* `Reported.consistent`, `Delivered.consistent` — the two ends of a request.
* `convert_output_consistent` — every output is consistent.
-/

namespace ScriptPress

open Conversion Text

variable {σ : Type} {config : Config}

/-! ## Diagnoses without a fix -/

theorem proposedFix_ofCompileFailure (code : String) (failure : CompileFailure) :
    (Diagnosis.ofCompileFailure code failure).proposedFix = none := by
  unfold Diagnosis.ofCompileFailure
  cases failure.kind <;> rfl

theorem isCompile_ofCompileFailure (code : String) (failure : CompileFailure) :
    (Diagnosis.ofCompileFailure code failure).kind.isCompile = true := by
  unfold Diagnosis.ofCompileFailure
  cases failure.kind <;> rfl

theorem proposedFix_ofException (code : String) (e : RuntimeException) :
    (Diagnosis.ofException code e).proposedFix = none := by
  unfold Diagnosis.ofException
  split
  · exact proposedFix_ofCompileFailure ..
  · exact proposedFix_ofCompileFailure ..
  · rfl

/-- A run that failed knows no fix. -/
theorem Ran.proposedFix {script : String} {c : Context} {limit : Nat} {s s' : Session σ}
    {d : Diagnosis} {rest : String × Context} {es : List Entry}
    (h : Ran script c limit s (.failure d, rest) es s') : d.proposedFix = none := by
  cases h with
  | timedOut => rfl
  | raised e => exact proposedFix_ofException script e
  | unlisted => rfl

/-- A search that failed knows no fix. -/
theorem Resolved.proposedFix {c c' : Context} {pdfs : List String} {printed : String}
    {options : ResolveOptions} {s s' : Session σ} {d : Diagnosis} {es : List Entry}
    (h : Resolved c pdfs printed options s (.failed d, c') es s') : d.proposedFix = none := by
  cases h <;> rfl

/-! ## Names of documents -/

theorem hasPdfExtension_of_isPdfName {name : String} (h : Store.isPdfName name = true) :
    hasPdfExtension name.toList = true := by
  rw [Store.isPdfName, List.isSuffixOf_iff_suffix] at h
  have small : Store.pdfExtension.toList.map Char.toLower = Store.pdfExtension.toList := by
    decide +kernel
  rw [hasPdfExtension, List.isSuffixOf_iff_suffix, ← small]
  exact h.map Char.toLower

theorem hasPdfExtension_filenameFor {artifact : String} (h : Store.isPdfName artifact = true) :
    hasPdfExtension (filenameFor config artifact).toList = true := by
  unfold filenameFor
  cases config.outputName with
  | none => exact hasPdfExtension_of_isPdfName h
  | some name => exact hasPdfExtension_downloadName name

/-! ## The invariant -/

/-- What is known of a repair is known as a whole: it is counted, and what was repaired is a failure
to compile that has the repaired script with it. -/
structure Conversion.Progress.Sound (p : Progress) : Prop where
  counted : p.stats.autoFixed = p.repaired.isSome
  compile : ∀ fixed d, p.repaired = some (fixed, d) →
    d.kind.isCompile = true ∧ d.proposedFix = some fixed

namespace Conversion.Progress

variable {p : Progress}

theorem sound_initial (config : Config) (source : String) (start : Nat) (normalizeMs : UInt64) :
    (initial config source start normalizeMs).Sound :=
  ⟨rfl, nofun⟩

theorem sound_mended (p : Progress) (script fixed : String) (failure : CompileFailure) :
    (p.mended (.ofCompileFailure script failure) fixed).Sound where
  counted := rfl
  compile fixed' d h := by
    obtain ⟨rfl, rfl⟩ : fixed = fixed' ∧
        (Diagnosis.ofCompileFailure script failure).withFix fixed = d := by
      simpa [mended] using h
    exact ⟨isCompile_ofCompileFailure script failure, rfl⟩

theorem Sound.diagnosed (h : p.Sound) (ms : UInt64) : (p.diagnosed ms).Sound :=
  ⟨h.counted, h.compile⟩

theorem Sound.executed (h : p.Sound) (printed : String) (ms : UInt64) :
    (p.executed printed ms).Sound :=
  ⟨h.counted, h.compile⟩

theorem Sound.resolved (h : p.Sound) (ms : UInt64) : (p.resolved ms).Sound :=
  ⟨h.counted, h.compile⟩

theorem Sound.found (h : p.Sound) (artifacts : List String) : (p.found artifacts).Sound :=
  ⟨h.counted, h.compile⟩

/-- A fix is proposed exactly where a repair is counted. -/
theorem Sound.isSome_fix_iff (h : p.Sound) :
    (p.repaired.map (·.1)).isSome = true ↔ p.stats.autoFixed = true := by
  rw [h.counted, Option.isSome_map]

end Conversion.Progress

/-! ## Outputs -/

/-- The fields of an output fit together. -/
structure Output.Consistent (o : Output) : Prop where
  /-- A report tells of a failure without a fix of its own, and is an error as a result. -/
  report : o.outcome = .fallback → o.artifact = reportName ∧
    ∃ d, o.diagnosis = some d ∧ d.proposedFix = none ∧
      o.result = .error (.diagnosed d.typeName d.message)
  /-- Any other document comes with a diagnosis if and only if a repaired script ran. -/
  repaired : o.outcome ≠ .fallback → (o.diagnosis.isSome = true ↔ o.stats.autoFixed = true)
  /-- That diagnosis is of a failure to compile, and its fix is the proposed one. -/
  compile : o.outcome ≠ .fallback → ∀ d, o.diagnosis = some d →
    d.kind.isCompile = true ∧ d.proposedFix = o.proposedFix
  found : o.outcome ≠ .fallback → 1 ≤ o.stats.artifactsFound
  fix : o.proposedFix.isSome = true ↔ o.stats.autoFixed = true
  filename : hasPdfExtension o.filename.toList = true
  result : o.outcome ≠ .fallback → o.result = .ok o

theorem Output.result_of_fallback {o : Output} {d : Diagnosis} (outcome : o.outcome = .fallback)
    (diagnosis : o.diagnosis = some d) : o.result = .error (.diagnosed d.typeName d.message) := by
  rw [Output.result, outcome, diagnosis]

theorem Output.result_of_ne_fallback {o : Output} (outcome : o.outcome ≠ .fallback) :
    o.result = .ok o := by
  unfold Output.result
  split
  · contradiction
  · contradiction
  · rfl

/-- A report is consistent if the failure that it tells of has no fix. -/
theorem Reported.consistent {p : Progress} {d : Diagnosis} {s s' : Session σ} {o : Output}
    {es : List Entry} (h : Reported config p d s (.ok o) es s') (sound : p.Sound)
    (unfixed : d.proposedFix = none) : o.Consistent := by
  cases h with
  | delivered fallbackMs totalMs =>
    have outcome : (p.reportOutput config d (p.report d s.sandbox.patches) fallbackMs
      totalMs).outcome = .fallback := rfl
    exact {
      report := fun _ => ⟨rfl, d, rfl, unfixed, Output.result_of_fallback outcome rfl⟩
      repaired := fun other => absurd outcome other
      compile := fun other => absurd outcome other
      found := fun other => absurd outcome other
      fix := sound.isSome_fix_iff
      filename := hasPdfExtension_filenameFor isPdfName_reportName
      result := fun other => absurd outcome other }

/-- A document that was found is consistent. -/
theorem Delivered.consistent {p : Progress} {delivery : Delivery} {s s' : Session σ} {o : Output}
    {es : List Entry} (h : Delivered config p delivery s (.ok o) es s') (sound : p.Sound)
    (some : SomePdfs delivery.artifacts) (other : delivery.outcome ≠ .fallback) :
    o.Consistent := by
  cases h with
  | unread e _ _ reported => exact reported.consistent (sound.found _) rfl
  | @delivered artifact artifacts _ bytes totalMs first =>
    exact {
      report := fun outcome => absurd outcome other
      repaired := fun _ => by
        simpa [Progress.output] using (sound.found delivery.artifacts).isSome_fix_iff
      compile := fun _ d diagnosis => by
        obtain ⟨⟨fixed, d'⟩, repaired, rfl⟩ := Option.map_eq_some_iff.1 diagnosis
        obtain ⟨compile, fix⟩ := sound.compile fixed d' repaired
        refine ⟨compile, fix.trans ?_⟩
        exact (congrArg (Option.map Prod.fst) repaired).symm
      found := fun _ => List.length_pos_of_ne_nil some.1
      fix := (sound.found delivery.artifacts).isSome_fix_iff
      filename := hasPdfExtension_filenameFor (some.2 _ (first ▸ List.mem_cons_self))
      result := fun _ => Output.result_of_ne_fallback other }

theorem Conducted.consistent {p : Progress} {script : String} {s s' : Session σ} {o : Output}
    {es : List Entry} (h : Conducted config p script s (.ok o) es s') (sound : p.Sound) :
    o.Consistent := by
  cases h with
  | failed executeMs ran _ reported =>
    exact reported.consistent (sound.executed _ _) ran.proposedFix
  | unresolved executeMs resolveMs ran _ resolved _ reported =>
    exact reported.consistent ((sound.executed _ _).resolved _) resolved.proposedFix
  | resolved executeMs resolveMs ran _ resolved _ delivered =>
    exact delivered.consistent ((sound.executed _ _).resolved _)
      (resolved.somePdfs ran.isPdfName) resolved.line

theorem Checked.consistent {p : Progress} {script : String} {s s' : Session σ} {o : Output}
    {es : List Entry} (h : Checked config p script s (.ok o) es s') (sound : p.Sound) :
    o.Consistent := by
  cases h with
  | compiles diagnoseMs _ conducted => exact conducted.consistent (sound.diagnosed _)
  | fails diagnoseMs _ _ reported =>
    exact reported.consistent (sound.diagnosed _) (proposedFix_ofCompileFailure _ _)
  | repaired diagnoseMs _ _ conducted =>
    exact conducted.consistent (Progress.sound_mended _ _ _ _)

theorem Converted.consistent {source : String} {s s' : Session σ} {o : Output} {es : List Entry}
    (h : Converted config source s (.ok o) es s') : o.Consistent := by
  cases h with
  | cleaned normalizeMs _ _ _ _ checked =>
    exact checked.consistent (Progress.sound_initial ..)

/-- Every output of a request is consistent, whatever the interpreter does and whichever calls of
the store fail. -/
theorem convert_output_consistent (interpreter : Interpreter σ) (config : Config) (source : String)
    (s : Session σ) (o : Output) (ok : (convert interpreter config source s).1 = .ok o) :
    o.Consistent := by
  obtain ⟨-, converted⟩ := (meets_convert interpreter config source s).run
  rw [ok] at converted
  exact converted.consistent

def missedColon? (script : String) : Option CompileFailure :=
  if script = "if x" then some ⟨.syntaxError, "expected ':'", some 1⟩ else none

/-- An interpreter that misses a colon in one script, and whose runs leave a document. -/
def Interpreter.pedantic : Interpreter Unit where
  name := "pedantic"
  compile script state := (missedColon? script, state)
  execute _ _ state := .write "page.pdf" [37, 80, 68, 70] fun _ => .finish (.ok ()) state
  invoke _ _ _ state := .finish (.ok ()) state

/-- The repaired script leaves a document, which tells of the repair. -/
theorem pedantic_output_consistent :
    ∃ o, (convert .pedantic .default "if x" (.new ⟨.inMemory .none, .all⟩ ())).1 = .ok o ∧
      o.outcome ≠ .fallback ∧ o.proposedFix = some "if x:" ∧ o.Consistent := by
  have delivered : ((convert .pedantic .default "if x"
      (.new ⟨.inMemory .none, .all⟩ ())).1.toOption.map fun o => (o.outcome, o.proposedFix)) =
      some (.saved, some "if x:") := by
    decide +kernel
  cases ok : (convert .pedantic .default "if x" (.new ⟨.inMemory .none, .all⟩ ())).1 with
  | error e => simp [ok, Except.toOption] at delivered
  | ok o =>
    simp only [ok, Except.toOption, Option.map_some, Option.some.injEq, Prod.mk.injEq] at delivered
    obtain ⟨outcome, fix⟩ := delivered
    exact ⟨o, rfl, by simp [outcome], fix,
      convert_output_consistent .pedantic .default "if x" _ o ok⟩

end ScriptPress
