import ScriptPress.Proofs.CallOrder
import ScriptPress.Proofs.Leftover

/-!
# Names of documents

Whether a file counts as a document is decided by its name, and not everywhere alike: the name for
the one who receives it may have its extension in capital letters, but in the store only small
letters count. A file with capital letters that a script leaves is not delivered, and one that was
left behind is not dropped.

## Main definitions

* `EndsRun` — a store as the clean run of a script is over.
* `BeginsDialogue` — a store as the interpreter is asked for the first time.

## Main statements

* `Removals.holds_iff` — what is still there once files are dropped.
* `Converted.saved_iff` — when a document of a clean run is delivered.
* `Converted.holds_iff` — what is still there as the interpreter is asked.
* `document_by_small_letters` — both, for every request.
* `capital_extension_missed` — a document that is neither delivered nor dropped.
-/

namespace ScriptPress

open Conversion Text

variable {σ : Type} {config : Config} {source : String}

/-! ## Moments of a request -/

/-- The store as the run of a script is over: the script compiled, it returned, the files were
listed, and no function that the interpreter called of its own accord left a document. -/
inductive EndsRun (st : Store) (es : List Entry) : Store → Prop
  | intro (script : String) (before played behind : List Entry)
      (split : es = before ++ (Stage.execute.around (cleanRun script played) ++ behind))
      (byScript : ∀ e ∈ played, e.byScript)
      (unrecorded : ∀ function, .recorded (some function) ∉ played) :
      EndsRun st es (st.after (before ++ Stage.execute.around (cleanRun script played)))

/-- The store as the interpreter is asked for the first time. -/
inductive BeginsDialogue (st : Store) (es : List Entry) : Store → Prop
  | intro (call : InterpreterCall) (before behind : List Entry)
      (split : es = before ++ .called call :: behind) (first : ∀ e ∈ before, e.call? = none) :
      BeginsDialogue st es (st.after before)

/-! ## Documents of a run -/

/-- Unless the interpreter tells that a function left a document, the script is taken to have saved
it. -/
theorem savedOutcome_after {c : Context} {es : List Entry} (fresh : c.autoInvoked = none)
    (unrecorded : ∀ function, .recorded (some function) ∉ es) :
    savedOutcome (c.after es) = .saved := by
  unfold savedOutcome
  split
  · next function produced =>
    rcases c.autoInvoked_after_or es with same | ⟨producer, mem, same⟩
    · simp [produced, fresh] at same
    · cases producer with
      | none => simp [produced, Context.record] at same
      | some producer => exact absurd mem (unrecorded producer)
  · rfl

/-- Only documents that are there after the run are delivered as saved. -/
theorem Resolved.found_of_saved {c c' : Context} {pdfs : List String} {printed : String}
    {options : ResolveOptions} {s s' : Session σ} {delivery : Delivery} {es : List Entry}
    (h : Resolved c pdfs printed options s (.delivered delivery, c') es s')
    (saved : delivery.outcome = .saved) : pdfs ≠ [] := by
  cases h with
  | saved found => exact found
  | typeset => cases saved
  | produced => cases saved

/-- Documents that are there after the run are all that is delivered. -/
theorem Resolved.eq_of_found {c c' : Context} {pdfs : List String} {printed : String}
    {options : ResolveOptions} {s s' : Session σ} {resolution : Resolution} {es : List Entry}
    (h : Resolved c pdfs printed options s (resolution, c') es s') (found : pdfs ≠ []) :
    resolution = .delivered ⟨savedOutcome c, pdfs⟩ := by
  cases h with
  | saved => rfl
  | undrawn unsaved => exact absurd unsaved found
  | unwritten unsaved => exact absurd unsaved found
  | typeset unsaved => exact absurd unsaved found
  | beyondClock unsaved => exact absurd unsaved found
  | produced unsaved => exact absurd unsaved found
  | fruitless unsaved => exact absurd unsaved found
  | noOutput unsaved => exact absurd unsaved found

/-- Documents are delivered where no call of the store fails. -/
theorem Delivered.exists_output {p : Progress} {delivery : Delivery} {s s' : Session σ}
    {result : Except ConversionError Output} {es : List Entry}
    (h : Delivered config p delivery s result es s') (found : delivery.artifacts ≠ [])
    (faultless : Faultless es) : ∃ o, result = .ok o ∧ o.outcome = delivery.outcome := by
  cases h with
  | nothing absent => exact absurd absent found
  | unread => exact absurd List.mem_cons_self (faultless _)
  | delivered => exact ⟨_, rfl, rfl⟩

theorem Closed.outcome {p : Progress} {s s' : Session σ} {resolution : Resolution} {o : Output}
    {es : List Entry} (h : Closed config p s resolution (.ok o) es s')
    (other : o.outcome ≠ .fallback) :
    ∃ delivery, resolution = .delivered delivery ∧ o.outcome = delivery.outcome := by
  cases h with
  | @delivered delivery _ _ _ delivered =>
    rcases delivered.output with ⟨outcome, -⟩ | ⟨outcome, -⟩
    · exact absurd outcome other
    · exact ⟨delivery, rfl, outcome⟩
  | reported reported => exact absurd reported.output.1 other

theorem EndsRun.not_idle {st st₁ : Store} {es : List Entry} (h : EndsRun st es st₁) :
    ¬∀ e ∈ es, e.beginsRun = false := by
  cases h with
  | intro script before played behind split =>
    have begun : .called (.execute script script) ∈ es := by
      simp [split, Stage.around, cleanRun]
    intro idle
    have none := idle _ begun
    simp [Entry.beginsRun, Entry.call?, InterpreterCall.isExecute] at none

/-- A clean run is delivered as saved if and only if documents are there when it is over. -/
theorem Performed.saved_iff {script : String} {s s' : Session σ} {st st₁ : Store}
    {result : Except ConversionError Output} {es₀ es : List Entry}
    (h : Performed config script s result es s') (undergoes : st.Undergoes es₀ s.sandbox.store)
    (idle : ∀ e ∈ es₀, e.beginsRun = false) (once : (es₀ ++ es).countP Entry.beginsRun ≤ 1)
    (ends : EndsRun st (es₀ ++ es) st₁) (faultless : Faultless es) :
    (∃ o, result = .ok o ∧ o.outcome = .saved) ↔ st₁.documents ≠ [] := by
  cases ends with
  | intro script' before played behind split byScript unrecorded =>
    rw [split] at once
    have idle' := idle_of_countP_le once
    cases h with
    | failed run _ _ =>
      -- A run that failed did not return, or was not listed.
      cases run with
      | stopped byScript' other =>
        obtain ⟨-, -, -, returned, -⟩ :=
          around_runEntries_unique split idle idle' byScript' byScript
        exact absurd returned other
      | unlisted byScript' =>
        obtain ⟨-, -, -, -, listed⟩ :=
          around_runEntries_unique split idle idle' byScript' byScript
        simp at listed
    | @returned _ played' es es' printed c c' resolution s₁ s₂ _ _ byScript' captured leads resolved
        leads₁ closed =>
      obtain ⟨rfl, rfl, rfl, -, -⟩ :=
        around_runEntries_unique split idle idle' byScript' byScript
      rw [Store.after_append, undergoes.after_eq, leads.store.after_eq]
      constructor
      · rintro ⟨o, rfl, saved⟩
        obtain ⟨delivery, rfl, outcome⟩ := closed.outcome (by simp [saved])
        exact resolved.found_of_saved (outcome.symm.trans saved)
      · intro found
        obtain rfl := resolved.eq_of_found found
        have outcome : savedOutcome c = .saved := by
          rw [captured.context]
          exact savedOutcome_after (autoInvoked_context _ _ _) unrecorded
        cases closed with
        | delivered delivered =>
          rw [← outcome]
          exact delivered.exists_output found
            (faultless_append.1 (faultless_append.1 faultless).2).2

/-- A clean run is delivered as saved if and only if documents are there when it is over. -/
theorem Converted.saved_iff {s s' : Session σ} {result : Except ConversionError Output}
    {es : List Entry} {st : Store} (h : Converted config source s result es s')
    (ends : EndsRun s.sandbox.store es st) (faultless : Faultless es) :
    (∃ o, result = .ok o ∧ o.outcome = .saved) ↔ st.documents ≠ [] := by
  have once := h.countP_beginsRun_le
  cases h.parted with
  | unopened e beginning =>
    refine absurd ?_ ends.not_idle
    rcases beginning with rfl | rfl <;> simp [Stage.around, Entry.beginsRun, Entry.call?]
  | reported opened _ reported =>
    exact absurd (List.forall_mem_append.2
      ⟨opened.idle, reported.tells.idle (List.forall_mem_nil _)⟩) ends.not_idle
  | conducted opened leads conducted =>
    exact conducted.performed.saved_iff leads.store opened.idle once ends
      (faultless_append.1 faultless).2

/-! ## Files that were left behind -/

/-- Once files are dropped, the others are still there. -/
theorem Removals.holds_iff {names : List String} {es : List Entry} (h : Removals names es)
    {st st' : Store} (undergoes : st.Undergoes es st') (faultless : Faultless es) (name : String)
    (bytes : Bytes) : st'.Holds name bytes ↔ name ∉ names ∧ st.Holds name bytes := by
  induction h generalizing st with
  | nil =>
    cases undergoes
    simp
  | @cons n names es ok rest ih =>
    have parts : Faultless ([.accessed .request (.remove n) ok] ++ es) := faultless
    obtain ⟨succeeded, later⟩ := faultless_append.1 parts
    obtain rfl : ok = true := by
      cases ok with
      | true => rfl
      | false => exact absurd List.mem_cons_self (succeeded _)
    cases undergoes with
    | cons fits undergoes =>
      have dropped : (st.remove n).1.isOk = true := fits
      rw [ih undergoes later]
      change name ∉ names ∧ (st.remove n).2.Holds name bytes ↔ _
      rw [Store.holds_remove_iff, dropped, List.mem_cons]
      tauto

/-- A request lists and drops the documents before it asks the interpreter to compile. -/
theorem Opened.exists_compile {s : Session σ} {script : Option String} {p : Progress}
    {es : List Entry} (h : Opened config source s script p es) : ∃ removals rest,
      Removals s.sandbox.store.documents removals ∧
      es = (Stage.normalize.around [] ++ [.accessed .request .list true] ++ removals ++
        [.told (.started .diagnose)]) ++ .called (.compile (config.script source)) :: rest := by
  have split (removals rest : List Entry) (failure : Option CompileFailure) :
      Stage.normalize.around [] ++ .accessed .request .list true :: removals ++
        (Stage.diagnose.around (compiling (config.script source) failure) ++ rest) =
      (Stage.normalize.around [] ++ [.accessed .request .list true] ++ removals ++
        [.told (.started .diagnose)]) ++ .called (.compile (config.script source)) ::
          ([.answered (.compile (config.script source) failure),
            .told (.completed .diagnose)] ++ rest) := by
    simp [Stage.around, compiling]
  cases h with
  | compiles _ _ removed =>
    exact ⟨_, _, removed, by rw [← split _ [] none, List.append_nil]⟩
  | fails _ _ removed => exact ⟨_, _, removed, split _ _ _⟩
  | repaired _ _ removed =>
    exact ⟨_, _, removed, (congrArg (_ ++ ·) (List.append_assoc ..)).trans (split _ _ _)⟩

/-- As the interpreter is asked for the first time, the documents are gone, and nothing else. -/
theorem Opened.holds_iff {s s₁ : Session σ} {script : Option String} {p : Progress}
    {before behind : List Entry} {st : Store} (h : Opened config source s script p before)
    (undergoes : s.sandbox.store.Undergoes before s₁.sandbox.store)
    (begins : BeginsDialogue s.sandbox.store (before ++ behind) st) (faultless : Faultless before)
    (name : String) (bytes : Bytes) :
    st.Holds name bytes ↔
      name ∉ s.sandbox.store.documents ∧ s.sandbox.store.Holds name bytes := by
  obtain ⟨removals, rest, removed, rfl⟩ := h.exists_compile
  obtain ⟨st₃, cleaned, -⟩ := undergoes.split
  obtain ⟨faultless, -⟩ := faultless_append.1 faultless
  have uncalled : ∀ e ∈ Stage.normalize.around [] ++ [.accessed .request .list true] ++ removals ++
      [.told (.started .diagnose)], e.call?.isSome = false := by
    have silent := List.filterMap_eq_nil_iff.1 removed.tells.called
    simpa [Stage.around, or_imp, forall_and, Entry.call?] using silent
  cases begins with
  | intro call front back split first =>
    rw [List.append_assoc] at split
    obtain ⟨rfl, -, -⟩ := append_cons_unique split uncalled
      (fun e mem => by rw [first e mem]; rfl) rfl rfl
    obtain ⟨st₂, dropped, told⟩ := cleaned.split
    obtain ⟨st₁, listed, dropping⟩ := dropped.split
    rw [cleaned.after_eq, ← told.of_single.2]
    have still : st₁.medium = s.sandbox.store.medium := by
      rw [← listed.after_eq]
      exact s.sandbox.store.medium_list
    have kept := removed.holds_iff dropping
      (faultless_append.1 (faultless_append.1 faultless).1).2 name bytes
    refine kept.trans (and_congr_right fun _ => ?_)
    rw [Store.Holds, still, Store.Holds]

/-- As the interpreter is asked for the first time, the documents are gone, and nothing else. -/
theorem Converted.holds_iff {s s' : Session σ} {result : Except ConversionError Output}
    {es : List Entry} {st : Store} (h : Converted config source s result es s')
    (begins : BeginsDialogue s.sandbox.store es st) (faultless : Faultless es)
    (name : String) (bytes : Bytes) :
    st.Holds name bytes ↔
      name ∉ s.sandbox.store.documents ∧ s.sandbox.store.Holds name bytes := by
  cases h.parted with
  | unopened e beginning =>
    cases begins with
    | intro call before behind split =>
      have mem : .called call ∈ es := split ▸ List.mem_append_right _ List.mem_cons_self
      rcases beginning with rfl | rfl <;> simp [Stage.around] at mem
  | reported opened leads =>
    exact opened.holds_iff leads.store begins (faultless_append.1 faultless).1 name bytes
  | conducted opened leads =>
    exact opened.holds_iff leads.store begins (faultless_append.1 faultless).1 name bytes

/-! ## Small letters only -/

/-- A file that is there under a name as a clean run is over is delivered as saved if the name ends
in the extension in small letters, and otherwise only if there is another document. What was left
under a name by an earlier request is gone as the interpreter is asked if the name ends in the
extension in small letters, and otherwise it is still there. -/
theorem document_by_small_letters (interpreter : Interpreter σ) (config : Config) (source : String)
    (s : Session σ) (name : String)
    (faultless : Faultless (entries (convert interpreter config source) s)) :
    let request := convert interpreter config source
    (∀ st bytes, EndsRun s.sandbox.store (entries request s) st → st.Holds name bytes →
      ((∃ o, (request s).1 = .ok o ∧ o.outcome = .saved) ↔
        Store.isPdfName name = true ∨ ∃ other ∈ st.documents, other ≠ name)) ∧
    (∀ st bytes, BeginsDialogue s.sandbox.store (entries request s) st →
      s.sandbox.store.Holds name bytes →
      ((∀ b, ¬st.Holds name b) ↔ Store.isPdfName name = true)) := by
  intro request
  obtain ⟨-, converted⟩ := (meets_convert interpreter config source s).run
  refine ⟨fun st bytes ends held => ?_, fun st bytes begins held => ?_⟩
  · rw [converted.saved_iff ends faultless]
    constructor
    · intro found
      obtain ⟨document, mem⟩ := List.exists_mem_of_ne_nil _ found
      by_cases same : document = name
      · exact .inl (same ▸ isPdfName_of_mem_documents mem)
      · exact .inr ⟨document, mem, same⟩
    · rintro (pdf | ⟨other, mem, -⟩)
      · exact List.ne_nil_of_mem (held.mem_documents pdf)
      · exact List.ne_nil_of_mem mem
  · have kept := converted.holds_iff begins faultless name
    constructor
    · intro gone
      by_contra other
      exact gone bytes ((kept bytes).2 ⟨fun mem => other (isPdfName_of_mem_documents mem), held⟩)
    · exact fun pdf b there => ((kept b).1 there).1 (held.mem_documents pdf)

/-! ## One letter for another -/

/-- An interpreter whose scripts leave a document under the given name. -/
def Interpreter.saving (document : String) : Interpreter Unit where
  name := "saving"
  compile _ state := (none, state)
  execute _ _ state := .write document [37, 80, 68, 70] fun _ => .finish (.ok ()) state
  invoke _ _ _ state := .finish (.ok ()) state

def saving (document : String) : List Entry :=
  [.accessed .script (.write document [37, 80, 68, 70]) true]

def leftoverSession (document : String) : Session Unit :=
  .new ⟨.ofFiles (FileMap.empty.insert document [37]), .all⟩ ()

theorem endsRun_saving (document : String) (st : Store) {es before : List Entry} {n : Nat}
    (front : es.take n = before ++ Stage.execute.around (cleanRun "pass" (saving document))) :
    EndsRun st es
      (st.after (before ++ Stage.execute.around (cleanRun "pass" (saving document)))) := by
  refine .intro "pass" before (saving document) (es.drop n) ?_ (by simp [saving, Entry.byScript])
    (by simp [saving])
  rw [← List.append_assoc, ← front, List.take_append_drop]

theorem beginsDialogue_of_take (st : Store) {es before : List Entry} {call : InterpreterCall}
    {n : Nat} (front : es.take n = before ++ [.called call])
    (first : ∀ e ∈ before, e.call? = none) : BeginsDialogue st es (st.after before) := by
  refine .intro call before (es.drop n) ?_ first
  rw [← List.singleton_append, ← List.append_assoc, ← front, List.take_append_drop]

/-- A document with small letters is dropped as the request begins, and delivered once the script
has left it again. -/
theorem small_extension_found :
    let request := convert (.saving "report.pdf") .default "pass"
    let s := leftoverSession "report.pdf"
    Faultless (entries request s) ∧ (∃ o, (request s).1 = .ok o ∧ o.outcome = .saved) ∧
      ∃ st, BeginsDialogue s.sandbox.store (entries request s) st ∧
        ∀ b, ¬st.Holds "report.pdf" b := by
  intro request s
  have faultless : Faultless (entries request s) := by decide +kernel
  have ends := endsRun_saving "report.pdf" s.sandbox.store
    (show (entries request s).take 14 = (entries request s).take 8 ++ _ by decide +kernel)
  have held : (s.sandbox.store.after ((entries request s).take 8 ++ Stage.execute.around
      (cleanRun "pass" (saving "report.pdf")))).Holds "report.pdf" [37, 80, 68, 70] := by
    unfold Store.Holds
    decide +kernel
  have begins := beginsDialogue_of_take s.sandbox.store
    (show (entries request s).take 6 = (entries request s).take 5 ++ [.called (.compile "pass")] by
      decide +kernel) (by decide +kernel)
  have left : s.sandbox.store.Holds "report.pdf" [37] := by
    unfold Store.Holds
    decide +kernel
  have pdf : Store.isPdfName "report.pdf" = true := by decide
  obtain ⟨found, gone⟩ := document_by_small_letters (.saving "report.pdf") .default "pass" s
    "report.pdf" faultless
  exact ⟨faultless, (found _ _ ends held).2 (.inl pdf), _, begins, (gone _ _ begins left).2 pdf⟩

/-- A document with capital letters is neither dropped as the request begins nor delivered once the
script has left it again. -/
theorem capital_extension_missed :
    let request := convert (.saving "Report.PDF") .default "pass"
    let s := leftoverSession "Report.PDF"
    isPlainName "Report.PDF" = true ∧ hasPdfExtension "Report.PDF".toList = true ∧
      (∃ st, EndsRun s.sandbox.store (entries request s) st ∧
        st.Holds "Report.PDF" [37, 80, 68, 70]) ∧
      (request s).1.toOption.map (·.outcome) = some .fallback ∧
      s.sandbox.store.Holds "Report.PDF" [37] ∧
      ∃ st, BeginsDialogue s.sandbox.store (entries request s) st ∧ st.Holds "Report.PDF" [37] := by
  intro request s
  have ends := endsRun_saving "Report.PDF" s.sandbox.store
    (show (entries request s).take 13 = (entries request s).take 7 ++ _ by decide +kernel)
  have held : (s.sandbox.store.after ((entries request s).take 7 ++ Stage.execute.around
      (cleanRun "pass" (saving "Report.PDF")))).Holds "Report.PDF" [37, 80, 68, 70] := by
    unfold Store.Holds
    decide +kernel
  have begins := beginsDialogue_of_take s.sandbox.store
    (show (entries request s).take 5 = (entries request s).take 4 ++ [.called (.compile "pass")] by
      decide +kernel) (by decide +kernel)
  have left : s.sandbox.store.Holds "Report.PDF" [37] := by
    unfold Store.Holds
    decide +kernel
  have kept : (s.sandbox.store.after ((entries request s).take 4)).Holds "Report.PDF" [37] := by
    unfold Store.Holds
    decide +kernel
  exact ⟨by decide, by decide +kernel, ⟨_, ends, held⟩, by decide +kernel, left, _, begins, kept⟩

end ScriptPress
