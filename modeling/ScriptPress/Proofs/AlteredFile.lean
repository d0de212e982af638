import ScriptPress.Proofs.FatalError
import ScriptPress.Proofs.MemoryStore

/-!
# Files that a request alters

Of its own accord a request drops documents and writes documents: that of what a script printed,
and the error report. Any other file that is changed while it is served, a script has changed.

## Main definitions

* `AltersPdfs` — what is altered is a document, or a script alters it.

## Main statements

* `Converted.altersPdfs` — a request leaves the files alone that are no documents.
* `Converted.agreeButPdfs` — and so they are there as before, if scripts leave them alone too.
-/

namespace ScriptPress

open Conversion Page

variable {σ : Type} {config : Config}

/-- What the entries alter is a document, unless they tell of a running script. -/
def AltersPdfs (es : List Entry) : Prop :=
  ∀ e ∈ es, e.byScript = false → ∀ name, e.Alters name → Store.isPdfName name

namespace AltersPdfs

variable {es es' : List Entry}

theorem append (h : AltersPdfs es) (h' : AltersPdfs es') : AltersPdfs (es ++ es') :=
  List.forall_mem_append.2 ⟨h, h'⟩

theorem around (h : AltersPdfs es) (stage : Stage) : AltersPdfs (stage.around es) :=
  Stage.forall_mem_around.2 ⟨by simp [Entry.Alters], h, by simp [Entry.Alters]⟩

/-- Entries of a request that at most write one document. -/
theorem of_write {name : String} (pdf : Store.isPdfName name)
    (h : ∀ e ∈ es, ∀ n, e.Alters n → n = name) : AltersPdfs es :=
  fun e mem _ n alters => h e mem n alters ▸ pdf

end AltersPdfs

/-! ## Runs and deliveries -/

/-- Where a script runs, nobody else alters a file. -/
theorem altersPdfs_of_ofRun {es : List Entry} (h : ∀ e ∈ es, e.ofRun) : AltersPdfs es := by
  intro e mem other name alters
  have ofRun := h e mem
  unfold Entry.ofRun at ofRun
  split at ofRun
  · cases alters
  · cases alters
  · cases alters
  · simp [ofRun] at other

theorem Removals.altersPdfs {names : List String} {es : List Entry} (h : Removals names es)
    (pdfs : ∀ name ∈ names, Store.isPdfName name) : AltersPdfs es := by
  induction h with
  | nil => simp [AltersPdfs]
  | @cons name names es ok _ ih =>
    obtain ⟨first, rest⟩ := List.forall_mem_cons.1 pdfs
    refine List.forall_mem_cons.2 ⟨fun _ n alters => ?_, ih rest⟩
    cases ok with
    | true => exact alters ▸ first
    | false => cases alters

theorem altersPdfs_list (ok : Bool) : AltersPdfs [.accessed .request .list ok] := by
  simp [AltersPdfs, Entry.Alters]

theorem Ran.altersPdfs {script : String} {c : Context} {limit : Nat} {s s' : Session σ}
    {result : RunResult × String × Context} {es : List Entry}
    (h : Ran script c limit s result es s') : AltersPdfs es :=
  altersPdfs_of_ofRun h.ofRun

theorem isPdfName_printoutName : Store.isPdfName printoutName := by decide

theorem Resolved.altersPdfs {c : Context} {pdfs : List String} {printed : String}
    {options : ResolveOptions} {s s' : Session σ} {result : Resolution × Context}
    {es : List Entry} (h : Resolved c pdfs printed options s result es s') : AltersPdfs es := by
  rcases h.ofRun_or with ofRun | ⟨-, -, bytes, ok, rfl⟩
  · exact altersPdfs_of_ofRun ofRun
  · exact .of_write isPdfName_printoutName (by cases ok <;> simp [Entry.Alters])

/-! ## The request -/

theorem Reported.altersPdfs {p : Progress} {d : Diagnosis} {s s' : Session σ}
    {result : Except ConversionError Output} {es : List Entry}
    (h : Reported config p d s result es s') : AltersPdfs es := by
  cases h <;> exact .of_write isPdfName_reportName (by simp [Stage.around, Entry.Alters])

theorem Delivered.altersPdfs {p : Progress} {delivery : Delivery} {s s' : Session σ}
    {result : Except ConversionError Output} {es : List Entry}
    (h : Delivered config p delivery s result es s') : AltersPdfs es := by
  cases h with
  | nothing => simp [AltersPdfs]
  | unread _ _ _ reported =>
    exact List.forall_mem_cons.2 ⟨by simp [Entry.Alters], reported.altersPdfs⟩
  | delivered => simp [AltersPdfs, Entry.Alters]

theorem Conducted.altersPdfs {p : Progress} {script : String} {s s' : Session σ}
    {result : Except ConversionError Output} {es : List Entry}
    (h : Conducted config p script s result es s') : AltersPdfs es := by
  cases h with
  | failed _ ran _ reported => exact (ran.altersPdfs.around _).append reported.altersPdfs
  | unresolved _ _ ran _ resolved _ reported =>
    exact (ran.altersPdfs.around _).append
      ((resolved.altersPdfs.around _).append reported.altersPdfs)
  | resolved _ _ ran _ resolved _ delivered =>
    exact (ran.altersPdfs.around _).append
      ((resolved.altersPdfs.around _).append delivered.altersPdfs)
  | beyondClock ran _ resolved =>
    exact (ran.altersPdfs.around _).append (resolved.altersPdfs.around _)

theorem altersPdfs_compiling (script : String) (failure : Option CompileFailure) :
    AltersPdfs (compiling script failure) := by
  simp [AltersPdfs, compiling, Entry.Alters]

theorem Mended.altersPdfs {script : String} {d : Diagnosis} {fixed : Option String}
    {es : List Entry} (h : Mended config script d fixed es) : AltersPdfs es := by
  cases h with
  | off => simp [AltersPdfs]
  | unknown => exact .around (by simp [AltersPdfs]) _
  | wrong => exact (altersPdfs_compiling _ _).around _
  | right => exact (altersPdfs_compiling _ _).around _

theorem Checked.altersPdfs {p : Progress} {script : String} {s s' : Session σ}
    {result : Except ConversionError Output} {es : List Entry}
    (h : Checked config p script s result es s') : AltersPdfs es := by
  have compiled (failure : Option CompileFailure) :
      AltersPdfs (Stage.diagnose.around (compiling script failure)) :=
    (altersPdfs_compiling _ _).around _
  cases h with
  | compiles _ _ conducted => exact (compiled _).append conducted.altersPdfs
  | fails _ mended _ reported =>
    exact ((compiled _).append mended.altersPdfs).append reported.altersPdfs
  | repaired _ mended _ conducted =>
    refine (((compiled _).append mended.altersPdfs).append ?_).append conducted.altersPdfs
    simp [AltersPdfs, Entry.Alters]

/-- A request leaves the files alone that are no documents. -/
theorem Converted.altersPdfs {source : String} {s s' : Session σ}
    {result : Except ConversionError Output} {es : List Entry}
    (h : Converted config source s result es s') : AltersPdfs es := by
  have normalized : AltersPdfs (Stage.normalize.around []) := .around (by simp [AltersPdfs]) _
  cases h with
  | empty => exact normalized
  | unlisted => exact normalized.append (altersPdfs_list _)
  | cleaned _ _ _ removed _ checked =>
    have dropped := removed.altersPdfs fun _ => isPdfName_of_mem_documents
    exact (normalized.append ((altersPdfs_list true).append dropped)).append checked.altersPdfs

/-- Files that are no documents are there as before, if scripts leave them alone too. -/
theorem Converted.agreeButPdfs {source : String} {s s' : Session σ}
    {result : Except ConversionError Output} {es : List Entry}
    (h : Converted config source s result es s') (leads : s.Leads es s') {files : FileMap}
    (memory : s.sandbox.store = .ofFiles files)
    (scripts : ∀ e ∈ es, e.byScript → ∀ name, e.Alters name → Store.isPdfName name) :
    ∃ files', s'.sandbox.store = .ofFiles files' ∧ files.AgreeButPdfs files' := by
  obtain ⟨files', after, same⟩ := Store.Undergoes.find?_eq (memory ▸ leads.store)
  refine ⟨files', after, fun name other => (same name fun e mem alters => ?_).symm⟩
  have pdf : Store.isPdfName name := by
    cases own : e.byScript with
    | true => exact scripts e mem own name alters
    | false => exact h.altersPdfs e mem own name alters
  simp [pdf] at other

end ScriptPress
