import ScriptPress.Proofs.DroppedFile
import ScriptPress.Proofs.Opening

/-!
# The changes that a request makes itself

Of its own accord a request changes files in three ways, one after the other: it drops the documents
that are there as it begins, it writes the printout of a script that left no document, and it writes
the error report. If nobody else changes a file and none of its calls fails, then the document that
it delivers is the only one in the end, exactly if the documents that were there had texts for names.

## Main definitions

* `ownChanges` — the changes of files that a request asks for.
* `Drops`, `Printouts`, `Reports` — the three parts of them.
* `Quiet` — scripts change no file.

## Main statements

* `Converted.ownChanges` — there are no other changes, whichever calls of the store fail.
* `Converted.documents_eq_iff` — when the delivered document is alone, where only the request changes
  files.
* `convert_ownChanges` — both, for every request.
* `unnamed_document_left` — a request after which there are two documents.
-/

namespace ScriptPress

open Conversion Text

variable {σ : Type} {config : Config} {source : String}

/-! ## Changes -/

def Access.changes? : Access → Option String
  | write name _ | remove name => some name
  | _ => none

/-- The change of a file that the request asks for, whether or not it succeeds. -/
def Entry.ownChange? : Entry → Option Access
  | accessed .request (.write name bytes) _ => some (.write name bytes)
  | accessed .request (.remove name) _ => some (.remove name)
  | _ => none

def ownChanges (es : List Entry) : List Access := es.filterMap Entry.ownChange?

@[simp] theorem ownChanges_nil : ownChanges [] = [] := rfl

@[simp] theorem ownChanges_append (es es' : List Entry) :
    ownChanges (es ++ es') = ownChanges es ++ ownChanges es' :=
  List.filterMap_append

@[simp] theorem ownChanges_around (stage : Stage) (es : List Entry) :
    ownChanges (stage.around es) = ownChanges es := by
  simp [ownChanges, Stage.around, List.filterMap_cons, Entry.ownChange?]

/-- Where a script runs, the request asks for no change. -/
theorem ownChanges_of_ofRun {es : List Entry} (h : ∀ e ∈ es, e.ofRun) : ownChanges es = [] := by
  refine List.filterMap_eq_nil_iff.2 fun e mem => ?_
  have ofRun := h e mem
  unfold Entry.ownChange?
  split
  · cases ofRun
  · cases ofRun
  · rfl

theorem Removals.ownChanges {names : List String} {es : List Entry} (h : Removals names es) :
    ownChanges es = names.map Access.remove := by
  induction h with
  | nil => rfl
  | cons _ _ ih => exact congrArg (List.cons _) ih

theorem Entry.still_of_not_ofFiles {e : Entry} (h : e.ofFiles = false) : e.still := by
  cases e <;> first | rfl | cases h

theorem Entry.ownChange?_of_not_ofFiles {e : Entry} (h : e.ofFiles = false) :
    e.ownChange? = none := by
  cases e <;> first | rfl | cases h

theorem Opened.ownChanges {s : Session σ} {script : Option String} {p : Progress}
    {es : List Entry} (h : Opened config source s script p es) :
    ownChanges es = s.sandbox.store.documents.map Access.remove := by
  obtain ⟨removals, rest, rfl, removed, idle⟩ := h.exists_removals
  have nothing : ScriptPress.ownChanges rest = [] :=
    List.filterMap_eq_nil_iff.2 fun e mem => Entry.ownChange?_of_not_ofFiles (idle e mem)
  rw [ownChanges_append, ownChanges_append removals, removed.ownChanges, nothing, List.append_nil]
  rfl

/-- Once a request is open, no document can be read, and there are none exactly if they had texts for
names. -/
theorem Opened.dropped {s s' : Session σ} {script : Option String} {p : Progress}
    {es : List Entry} (h : Opened config source s script p es)
    (undergoes : s.sandbox.store.Undergoes es s'.sandbox.store) (faultless : Faultless es) :
    s'.sandbox.store.HoldsNoDocument ∧
      (s'.sandbox.store.documents = [] ↔ s.sandbox.store.NamesTexts) := by
  obtain ⟨removals, rest, rfl, removed, idle⟩ := h.exists_removals
  obtain ⟨st, listing, undergoes⟩ := undergoes.split
  obtain ⟨st₁, dropping, behind⟩ := undergoes.split
  have dropped : Faultless removals :=
    (faultless_append.1 (faultless_append.1 faultless).2).1
  obtain rfl : s.sandbox.store.list.2 = st := listing.after_eq
  rw [← Store.documents_list] at removed
  have still : ∀ e ∈ rest, e.still := fun e mem => Entry.still_of_not_ofFiles (idle e mem)
  refine ⟨behind.holdsNoDocument still (removed.holdsNoDocument dropping dropped), ?_⟩
  rw [behind.documents_eq still, removed.documents_eq_nil_iff dropping dropped, Store.NamesTexts,
    Store.content, Store.medium_list, Store.NamesTexts, Store.content]

/-! ## The three parts -/

/-- The documents of a store are dropped, or none. -/
inductive Drops (st : Store) : List Access → Prop
  | none : Drops st []
  | all : Drops st (st.documents.map Access.remove)

/-- A printout is due: a script has returned, there are no documents then, and it has printed
something that can be seen. Only behind that is the printout written. -/
inductive PrintoutDue (st : Store) (es : List Entry) : Prop
  | intro {script : String} {before played behind : List Entry} {bytes : Bytes}
      (split : es = before ++ Stage.execute.around (cleanRun script played) ++ behind)
      (unsaved :
        (st.after (before ++ Stage.execute.around (cleanRun script played))).documents = [])
      (visible : isBlankText (spoken played).toList = false)
      (behind : .write printoutName bytes ∈ ownChanges behind)

/-- A printout is written once, and only if it is due. -/
inductive Printouts (st : Store) (es : List Entry) : List Access → Prop
  | none : Printouts st es []
  | one (bytes : Bytes) (due : PrintoutDue st es) :
      Printouts st es [.write printoutName bytes]

/-- A report is due: it is delivered, or it could not be stored or read back. -/
inductive ReportDue (es : List Entry) : Except ConversionError Output → Prop
  | delivered {o : Output} (fallback : o.outcome = .fallback) : ReportDue es (.ok o)
  | unreported {e : ConversionError} (unreported : Unreported es e) : ReportDue es (.error e)

/-- A report is written once, and only if it is due. -/
inductive Reports (es : List Entry) (result : Except ConversionError Output) : List Access → Prop
  | none : Reports es result []
  | one (bytes : Bytes) (due : ReportDue es result) :
      Reports es result [.write reportName bytes]

theorem PrintoutDue.append {st st₁ : Store} {es es₀ : List Entry} (h : PrintoutDue st₁ es)
    (undergoes : st.Undergoes es₀ st₁) : PrintoutDue st (es₀ ++ es) := by
  cases h with
  | intro split unsaved visible behind =>
    refine .intro (by rw [split, ← List.append_assoc, ← List.append_assoc]) ?_ visible behind
    rwa [List.append_assoc, Store.after_append, undergoes.after_eq]

theorem Printouts.append {st st₁ : Store} {es es₀ : List Entry} {changes : List Access}
    (h : Printouts st₁ es changes) (undergoes : st.Undergoes es₀ st₁) :
    Printouts st (es₀ ++ es) changes := by
  cases h with
  | none => exact .none
  | one bytes due => exact .one bytes (due.append undergoes)

theorem Reports.append {es : List Entry} {result : Except ConversionError Output}
    {changes : List Access} (h : Reports es result changes) (es₀ : List Entry) :
    Reports (es₀ ++ es) result changes := by
  cases h with
  | none => exact .none
  | one bytes due =>
    cases due with
    | delivered fallback => exact .one bytes (.delivered fallback)
    | unreported unreported => exact .one bytes (.unreported (unreported.append es₀))

/-! ## The parts of a request -/

theorem Reported.ownChanges {p : Progress} {d : Diagnosis} {s s' : Session σ}
    {result : Except ConversionError Output} {es : List Entry}
    (h : Reported config p d s result es s') : Reports es result (ownChanges es) := by
  cases h with
  | unwritten e => exact .one _ (.unreported (.unwritten e rfl))
  | unread e => exact .one _ (.unreported (.unread e rfl))
  | delivered => exact .one _ (.delivered rfl)

theorem Closed.ownChanges {p : Progress} {s s' : Session σ} {resolution : Resolution}
    {result : Except ConversionError Output} {es : List Entry}
    (h : Closed config p s resolution result es s') : Reports es result (ownChanges es) := by
  cases h with
  | delivered delivered =>
    cases delivered with
    | nothing => exact .none
    | unread _ _ _ reported => exact reported.ownChanges.append [_]
    | delivered => exact .none
  | reported reported => exact reported.ownChanges
  | beyondClock => exact .none

theorem Performed.ownChanges {script : String} {s s' : Session σ}
    {result : Except ConversionError Output} {es : List Entry}
    (h : Performed config script s result es s') : ∃ printed reported,
      ownChanges es = printed ++ reported ∧ Printouts s.sandbox.store es printed ∧
        Reports es result reported := by
  cases h with
  | failed run _ reported =>
    refine ⟨[], _, ?_, .none, reported.ownChanges.append _⟩
    rw [ownChanges_append, ownChanges_around, ownChanges_of_ofRun run.ofRun]
  | @returned _ played es es' printed _ _ _ s₁ _ _ _ byScript captured leads resolved _ closed =>
    have run : ScriptPress.ownChanges (Stage.execute.around (cleanRun script played)) = [] := by
      rw [ownChanges_around, ownChanges_of_ofRun (ofRun_cleanRun byScript)]
    refine ⟨ScriptPress.ownChanges es, ScriptPress.ownChanges es', ?_, ?_,
      (closed.ownChanges.append _).append _⟩
    · rw [ownChanges_append, run, ownChanges_append, ownChanges_around, List.nil_append]
    · rcases resolved.ofRun_or with ofRun | ⟨unsaved, visible, bytes, ok, rfl⟩
      · rw [ownChanges_of_ofRun ofRun]
        exact .none
      · rw [captured.printed] at visible
        have due : (s.sandbox.store.after
            ([] ++ Stage.execute.around (cleanRun script played))).documents = [] := by
          rw [List.nil_append, leads.store.after_eq, unsaved]
        have write : .write printoutName bytes ∈ ScriptPress.ownChanges
            (Stage.resolve.around [.accessed .request (.write printoutName bytes) ok] ++ es') := by
          rw [ownChanges_append, ownChanges_around]
          exact List.mem_append_left _ (List.mem_singleton.2 rfl)
        exact .one bytes (.intro rfl due visible write)

/-- The changes that a request asks for. -/
theorem Converted.ownChanges {s s' : Session σ} {result : Except ConversionError Output}
    {es : List Entry} (h : Converted config source s result es s') :
    ∃ dropped printed reported, ownChanges es = dropped ++ printed ++ reported ∧
      Drops s.sandbox.store dropped ∧ Printouts s.sandbox.store es printed ∧
        Reports es result reported := by
  cases h.parted with
  | unopened e beginning =>
    refine ⟨[], [], [], ?_, .none, .none, .none⟩
    rcases beginning with rfl | rfl <;> rfl
  | reported opened leads reported =>
    refine ⟨_, [], _, ?_, .all, .none, reported.ownChanges.append _⟩
    rw [ownChanges_append, opened.ownChanges, List.append_nil]
  | conducted opened leads conducted =>
    obtain ⟨printed, reported, changes, printouts, reports⟩ := conducted.performed.ownChanges
    refine ⟨_, printed, reported, ?_, .all, printouts.append leads.store, reports.append _⟩
    rw [ownChanges_append, opened.ownChanges, changes, List.append_assoc]

/-! ## Names -/

/-- A call of the store is to change a document. -/
def Access.ChangesPdf (a : Access) : Prop :=
  ∃ name, a.changes? = some name ∧ Store.isPdfName name = true

theorem Drops.changesPdf {st : Store} {changes : List Access} (h : Drops st changes) :
    ∀ a ∈ changes, a.ChangesPdf := by
  cases h with
  | none => exact List.forall_mem_nil _
  | all =>
    intro a mem
    obtain ⟨name, listed, rfl⟩ := List.mem_map.1 mem
    exact ⟨name, rfl, isPdfName_of_mem_documents listed⟩

theorem Printouts.changesPdf {st : Store} {es : List Entry} {changes : List Access}
    (h : Printouts st es changes) : ∀ a ∈ changes, a.ChangesPdf := by
  cases h with
  | none => exact List.forall_mem_nil _
  | one => exact List.forall_mem_singleton.2 ⟨printoutName, rfl, isPdfName_printoutName⟩

theorem Reports.changesPdf {es : List Entry} {result : Except ConversionError Output}
    {changes : List Access} (h : Reports es result changes) : ∀ a ∈ changes, a.ChangesPdf := by
  cases h with
  | none => exact List.forall_mem_nil _
  | one => exact List.forall_mem_singleton.2 ⟨reportName, rfl, isPdfName_reportName⟩

/-! ## Where only the request changes files -/

/-- What scripts do changes no file. -/
def Quiet (es : List Entry) : Prop := ∀ e ∈ es, e.byScript → e.still

instance (es : List Entry) : Decidable (Quiet es) := List.decidableBAll _ _

theorem quiet_append {es es' : List Entry} : Quiet (es ++ es') ↔ Quiet es ∧ Quiet es' :=
  List.forall_mem_append

/-- Where a quiet script runs, no file changes. -/
theorem Quiet.still {es : List Entry} (h : Quiet es) (ofRun : ∀ e ∈ es, e.ofRun) :
    ∀ e ∈ es, e.still := by
  intro e mem
  have quiet := h e mem
  have run := ofRun e mem
  unfold Entry.ofRun at run
  split at run
  · rfl
  · rfl
  · rfl
  · exact quiet run

theorem Quiet.still_around {stage : Stage} {es : List Entry} (h : Quiet (stage.around es))
    (ofRun : ∀ e ∈ es, e.ofRun) : ∀ e ∈ stage.around es, e.still := by
  obtain ⟨-, inner, -⟩ := Stage.forall_mem_around.1 h
  exact Stage.forall_mem_around.2 ⟨rfl, Quiet.still inner ofRun, rfl⟩

/-- A document that is written where none can be read comes to the others. -/
theorem Store.documents_after_write {st : Store} {name : String} {bytes : Bytes}
    (none : st.HoldsNoDocument) (pdf : isPdfName name = true)
    (fits : (Entry.accessed .request (.write name bytes) true).Fits st) :
    ((Entry.accessed .request (.write name bytes) true).effect st).documents.Perm
      (name :: st.documents) := by
  refine documents_write (fun c => none name c pdf) pdf ?_
  cases answer : (st.write name bytes).1 with
  | ok _ => rfl
  | error e => simp [Entry.Fits, Access.perform, answer, Except.isOk, Except.toBool] at fits

/-- A report that is delivered where no document can be read comes to the others. -/
theorem Reported.documents_perm {p : Progress} {d : Diagnosis} {s s' : Session σ} {o : Output}
    {es : List Entry} (h : Reported config p d s (.ok o) es s')
    (undergoes : s.sandbox.store.Undergoes es s'.sandbox.store)
    (none : s.sandbox.store.HoldsNoDocument) :
    s'.sandbox.store.documents.Perm (o.artifact :: s.sandbox.store.documents) := by
  cases h with
  | delivered =>
    cases undergoes with
    | cons _ written =>
      cases written with
      | cons fits rest =>
        rw [rest.documents_eq (by simp [Entry.still])]
        exact Store.documents_after_write none isPdfName_reportName fits

/-- Documents that cannot be read are not delivered. -/
theorem Delivered.not_holdsNoDocument {p : Progress} {delivery : Delivery} {s s' : Session σ}
    {o : Output} {es : List Entry} (h : Delivered config p delivery s (.ok o) es s')
    (undergoes : s.sandbox.store.Undergoes es s'.sandbox.store) (faultless : Faultless es)
    (pdfs : ∀ name ∈ delivery.artifacts, Store.isPdfName name = true) :
    ¬s.sandbox.store.HoldsNoDocument := by
  intro none
  cases h with
  | unread => exact absurd List.mem_cons_self (faultless _)
  | delivered _ first holds =>
    have same : s'.sandbox.store.HoldsNoDocument :=
      undergoes.holdsNoDocument (by simp [Entry.still]) none
    exact same _ _ (pdfs _ (first ▸ List.mem_cons_self)) holds

/-- A single document that is found is delivered, unless it cannot be read. -/
theorem Delivered.documents_eq {p : Progress} {delivery : Delivery} {s s' : Session σ} {o : Output}
    {es : List Entry} {name : String} (h : Delivered config p delivery s (.ok o) es s')
    (undergoes : s.sandbox.store.Undergoes es s'.sandbox.store) (faultless : Faultless es)
    (found : delivery.artifacts = [name]) (single : s.sandbox.store.documents = [name]) :
    s'.sandbox.store.documents = [o.artifact] := by
  cases h with
  | unread => exact absurd List.mem_cons_self (faultless _)
  | delivered _ first =>
    have named : [name] = _ := found.symm.trans first
    obtain ⟨rfl, -⟩ := List.cons.inj named
    exact (undergoes.documents_eq (by simp [Entry.still])).trans single

/-- What a quiet script leaves to deliver is the printout, which is then the only document. -/
theorem Resolved.settled {c c' : Context} {printed : String} {options : ResolveOptions}
    {s s' : Session σ} {resolution : Resolution} {es : List Entry}
    (h : Resolved c [] printed options s (resolution, c') es s')
    (undergoes : s.sandbox.store.Undergoes es s'.sandbox.store) (faultless : Faultless es)
    (quiet : Quiet es) (none : s.sandbox.store.HoldsNoDocument)
    (empty : s.sandbox.store.documents = []) :
    (∀ delivery, resolution ≠ .delivered delivery) ∧
        s'.sandbox.store.HoldsNoDocument ∧ s'.sandbox.store.documents = [] ∨
      resolution = .delivered ⟨.fromStdout, [printoutName]⟩ ∧
        s'.sandbox.store.documents = [printoutName] := by
  cases h with
  | saved found => exact absurd rfl found
  | undrawn => exact .inl ⟨nofun, none, empty⟩
  | unwritten _ _ _ written =>
    cases written with
    | refused => exact absurd List.mem_cons_self (faultless _)
  | typeset _ _ _ written =>
    cases written with
    | kept =>
      obtain ⟨fits, after⟩ := undergoes.of_single
      have written := Store.documents_after_write none isPdfName_printoutName fits
      rw [empty] at written
      rw [← after]
      exact .inr ⟨rfl, List.perm_singleton.1 written⟩
  | beyondClock => exact .inl ⟨nofun, none, empty⟩
  | produced _ _ _ _ tried =>
    -- What was produced would have been listed, but the script changed no file.
    have still := undergoes.documents_eq (quiet.still tried.ofRun)
    exact absurd (tried.lists.trans (still.trans empty)) tried.sound.1
  | fruitless _ _ _ _ _ tried =>
    have still := quiet.still tried.ofRun
    exact .inl ⟨nofun, undergoes.holdsNoDocument still none,
      (undergoes.documents_eq still).trans empty⟩
  | noOutput => exact .inl ⟨nofun, none, empty⟩

/-- A quiet script and its request add the delivered document to those that cannot be read. -/
theorem Performed.documents_perm {script : String} {s s' : Session σ} {o : Output}
    {es : List Entry} (h : Performed config script s (.ok o) es s')
    (undergoes : s.sandbox.store.Undergoes es s'.sandbox.store) (faultless : Faultless es)
    (quiet : Quiet es) (none : s.sandbox.store.HoldsNoDocument) :
    s'.sandbox.store.documents.Perm (o.artifact :: s.sandbox.store.documents) := by
  cases h with
  | @failed p d es es' s₁ _ _ run leads reported =>
    have still := (quiet_append.1 quiet).1.still_around run.ofRun
    rw [← leads.store.documents_eq still]
    exact reported.documents_perm (undergoes.rest leads.store)
      (leads.store.holdsNoDocument still none)
  | @returned p played es es' printed c c' resolution s₁ s₂ _ _ byScript captured leads resolved
      leads₁ closed =>
    obtain ⟨running, quiet⟩ := quiet_append.1 quiet
    obtain ⟨searching, -⟩ := quiet_append.1 quiet
    obtain ⟨-, faultless⟩ := faultless_append.1 faultless
    obtain ⟨searched, closing⟩ := faultless_append.1 faultless
    have still := running.still_around (ofRun_cleanRun byScript)
    have none₁ := leads.store.holdsNoDocument still none
    have behind := (undergoes.rest leads.store).rest leads₁.around.store
    have innerFaultless : Faultless es := fun a mem => searched a (by simp [Stage.around, mem])
    obtain ⟨-, inner, -⟩ := Stage.forall_mem_around.1 searching
    rw [← leads.store.documents_eq still]
    by_cases empty : s₁.sandbox.store.documents = []
    · rw [empty] at resolved ⊢
      rcases resolved.settled leads₁.store innerFaultless inner none₁ empty with
        ⟨other, none₂, empty₂⟩ | ⟨rfl, single⟩
      · cases closed with
        | delivered => exact absurd rfl (other _)
        | reported reported => exact empty₂ ▸ reported.documents_perm behind none₂
      · cases closed with
        | delivered delivered => exact .of_eq (delivered.documents_eq behind closing rfl single)
    · -- Documents that are left are found, but then they cannot be read.
      cases resolved with
      | saved =>
        cases closed with
        | delivered delivered =>
          exact absurd none₁ (delivered.not_holdsNoDocument behind closing
            fun _ mem => isPdfName_of_mem_documents mem)
      | undrawn unsaved | unwritten unsaved | typeset unsaved | beyondClock unsaved
      | produced unsaved | fruitless unsaved | noOutput unsaved => exact absurd unsaved empty

/-- A quiet script and its request leave one document, exactly if the documents that were dropped
had texts for names. -/
theorem Converted.documents_eq_iff {s s' : Session σ} {o : Output} {es : List Entry}
    (h : Converted config source s (.ok o) es s')
    (undergoes : s.sandbox.store.Undergoes es s'.sandbox.store) (faultless : Faultless es)
    (quiet : Quiet es) :
    s'.sandbox.store.documents = [o.artifact] ↔ s.sandbox.store.NamesTexts := by
  have alone {left : List String}
      (added : s'.sandbox.store.documents.Perm (o.artifact :: left)) :
      s'.sandbox.store.documents = [o.artifact] ↔ left = [] := by
    constructor
    · intro single
      have length := added.length_eq
      simpa [single] using length
    · rintro rfl
      exact List.perm_singleton.1 added
  cases h.parted with
  | reported opened leads reported =>
    obtain ⟨opening, -⟩ := faultless_append.1 faultless
    obtain ⟨none, left⟩ := opened.dropped leads.store opening
    exact (alone (reported.documents_perm (undergoes.rest leads.store) none)).trans left
  | conducted opened leads conducted =>
    obtain ⟨opening, faultless⟩ := faultless_append.1 faultless
    obtain ⟨none, left⟩ := opened.dropped leads.store opening
    exact (alone (conducted.performed.documents_perm (undergoes.rest leads.store) faultless
      (quiet_append.1 quiet).2 none)).trans left

/-! ## Requests -/

/-- The changes of files that a request asks for are these, whichever calls of the store fail: it
drops the documents that are listed as it begins; then it writes one printout at most, if a script
has returned, left no document and printed something; then it writes one report at most, which it
delivers, or fails to store or to read back. It never changes a file that is no document. And if no
call fails and scripts change no file, then the delivered document is the only one in the end,
exactly if the documents that were there had texts for names. -/
theorem convert_ownChanges (interpreter : Interpreter σ) (config : Config) (source : String)
    (s : Session σ) :
    let request := convert interpreter config source
    let es := entries request s
    (∃ dropped printed reported, ownChanges es = dropped ++ printed ++ reported ∧
      Drops s.sandbox.store dropped ∧ Printouts s.sandbox.store es printed ∧
        Reports es (request s).1 reported) ∧
    (∀ change ∈ ownChanges es, change.ChangesPdf) ∧
    (Faultless es → Quiet es → ∀ o, (request s).1 = .ok o →
      ((request s).2.sandbox.store.documents = [o.artifact] ↔ s.sandbox.store.NamesTexts)) := by
  intro request es
  obtain ⟨leads, converted⟩ := (meets_convert interpreter config source s).run
  obtain ⟨dropped, printed, reported, changes, drops, printouts, reports⟩ := converted.ownChanges
  refine ⟨⟨dropped, printed, reported, changes, drops, printouts, reports⟩, ?_, ?_⟩
  · rw [changes]
    exact List.forall_mem_append.2
      ⟨List.forall_mem_append.2 ⟨drops.changesPdf, printouts.changesPdf⟩, reports.changesPdf⟩
  · intro faultless quiet o ok
    rw [ok] at converted
    exact converted.documents_eq_iff leads.store faultless quiet

def Interpreter.printing : Interpreter Unit where
  name := "printing"
  compile _ state := (none, state)
  execute _ _ state := .print "hi" (.finish (.ok ()) state)
  invoke _ _ _ state := .finish (.ok ()) state

def usedSession : Session Unit :=
  .new ⟨.ofFiles ((FileMap.empty.insert "old.pdf" [65]).insert "notes.txt" [66]), .all⟩ ()

def printingRequest : Conversion Unit (Except ConversionError Output) :=
  convert .printing .default "pass"

/-- The old document is dropped, and the printout is the only one in the end. -/
theorem printing_ownChanges :
    let es := entries printingRequest usedSession
    Faultless es ∧ Quiet es ∧
      (ownChanges es).map Access.changes? = [some "old.pdf", some "output.pdf"] ∧
      ∃ o, (printingRequest usedSession).1 = .ok o ∧ o.outcome = .fromStdout ∧
        (printingRequest usedSession).2.sandbox.store.documents = [o.artifact] := by
  intro es
  have faultless : Faultless es := by decide +kernel
  have quiet : Quiet es := by decide +kernel
  have delivered : (printingRequest usedSession).1.toOption.map (·.outcome) =
      some .fromStdout := by
    decide +kernel
  refine ⟨faultless, quiet, by decide +kernel, ?_⟩
  cases ok : (printingRequest usedSession).1 with
  | error e => simp [ok, Except.toOption] at delivered
  | ok o =>
    have outcome : o.outcome = .fromStdout := by simpa [ok, Except.toOption] using delivered
    obtain ⟨-, -, alone⟩ := convert_ownChanges .printing .default "pass" usedSession
    refine ⟨o, rfl, outcome, ?_⟩
    unfold printingRequest
    exact (alone faultless quiet o ok).2 (Store.namesTexts_memory _ _)

def refusedRequest : Conversion Unit (Except ConversionError Output) :=
  convert .refusing .default "pass"

/-- No call fails and nobody else changes a file, but there are two documents in the end. -/
theorem unnamed_document_left :
    Faultless (entries refusedRequest lossySession) ∧
      Quiet (entries refusedRequest lossySession) ∧
      (refusedRequest lossySession).1.toOption.map (·.artifact) = some "error_report.pdf" ∧
      (refusedRequest lossySession).2.sandbox.store.documents.Perm
        ["\uFFFD.pdf", "error_report.pdf"] := by
  refine ⟨by decide +kernel, by decide +kernel, by decide +kernel, ?_⟩
  refine (Store.documents_perm _).trans (.of_eq ?_)
  decide +kernel

end ScriptPress
