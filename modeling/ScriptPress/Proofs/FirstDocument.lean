import Mathlib.Data.List.Sort
import ScriptPress.Proofs.AlteredFile
import ScriptPress.Proofs.AutoInvocation
import ScriptPress.Proofs.DiagnosisLine
import ScriptPress.Proofs.MemoryStore

/-!
# The first document

A request that does not end in its report delivers the first of the documents that are in the store
when it is over, and counts them all. The listing that decides this is made at a different moment
for each way that a document comes about, and for a printout not at all; but nothing that comes
behind it changes which documents there are.

## Main definitions

* `Output.FirstOf` — the output is the first document of a store.

## Main statements

* `Store.pairwise_documents` — documents are listed in the order of their names.
* `Store.documents_write` — a document that is written under a new name comes to the others.
* `Resolved.documents` — the artifacts of a delivery are the documents of the store.
* `convert_delivers_first_document` — the delivered document is the first of those in the end.
-/

namespace ScriptPress

open Conversion Text

variable {σ : Type} {config : Config}

/-! ## Listings -/

theorem Medium.pairwise_fileNames (root : Disk.Folder) :
    (Medium.fileNames root).Pairwise (· ≤ ·) := by
  have transitive : ∀ a b c : String, decide (a ≤ b) = true → decide (b ≤ c) = true →
      decide (a ≤ c) = true := by
    simpa using fun a b c => String.le_trans
  have total : ∀ a b : String, (decide (a ≤ b) || decide (b ≤ a)) = true := by
    simpa using String.le_total
  exact (List.pairwise_mergeSort transitive total _).imp of_decide_eq_true

theorem FileMap.pairwise_names (files : FileMap) : files.names.Pairwise (· < ·) :=
  List.pairwise_map.2 files.ordered

/-- A document that is put under a new name comes to the others. -/
theorem FileMap.pdfNames_insert {files : FileMap} {name : String} (bytes : Bytes)
    (new : files.find? name = none) (pdf : Store.isPdfName name = true) :
    (files.insert name bytes).pdfNames.Perm (name :: files.pdfNames) := by
  have other : name ∉ files.pdfNames := fun mem => by
    have found := mem_names_iff.1 (List.mem_filter.1 mem).1
    simp [new] at found
  refine (List.perm_ext_iff_of_nodup ((nodup_names _).filter _)
    (List.nodup_cons.2 ⟨other, (nodup_names _).filter _⟩)).2 fun n => ?_
  rw [List.mem_cons, pdfNames, List.mem_filter, List.mem_filter, mem_names_iff, mem_names_iff,
    find?_insert]
  by_cases same : n = name <;> simp [same, pdf]

theorem Medium.fileNames_put (root : Disk.Folder) (name : String) (bytes : Bytes) :
    (fileNames (root.put (utf8 name.toList) (.file bytes))).Perm
      (fileNames (root.erase (utf8 name.toList)) ++ [name]) := by
  refine (List.mergeSort_perm _ _).trans ?_
  rw [Disk.Folder.put, List.filterMap_append]
  simp only [List.filterMap_cons, List.filterMap_nil, decodeUtf8Lossy_utf8, String.ofList_toList]
  exact (List.mergeSort_perm _ _).symm.append_right _

namespace Store

/-- Documents are listed in the order of their names. -/
theorem pairwise_documents (st : Store) : st.documents.Pairwise (· ≤ ·) := by
  obtain ⟨medium, faults⟩ := st
  refine List.Pairwise.filter _ ?_
  cases medium with
  | memory files => exact files.pairwise_names.imp fun lt => String.not_lt.1 (String.lt_asymm lt)
  | folder path root =>
    cases root with
    | none => exact List.Pairwise.nil
    | some entries => exact Medium.pairwise_fileNames entries

theorem documents_read (name : String) (st : Store) :
    (st.read name).2.documents = st.documents := by
  simp [documents]

/-- A document that is written under a new name comes to the others. -/
theorem documents_write {st : Store} {name : String} {bytes : Bytes}
    (new : ∀ c, ¬st.Holds name c) (pdf : isPdfName name = true)
    (written : (st.write name bytes).1 = .ok ()) :
    (st.write name bytes).2.documents.Perm (name :: st.documents) := by
  have kept := write_of_ok written
  generalize (st.write name bytes).2 = st' at kept ⊢
  obtain ⟨medium, faults⟩ := st
  obtain ⟨medium', faults'⟩ := st'
  cases medium with
  | memory files =>
    obtain ⟨-, rfl⟩ : isPlainName name = true ∧
        Medium.memory (files.insert name bytes) = medium' := by
      grind [Medium.write]
    have free : files.find? name = none := Option.eq_none_iff_forall_ne_some.2 fun c found =>
      new c (Medium.read_memory_eq_ok_iff.2 found)
    exact FileMap.pdfNames_insert bytes free pdf
  | folder path root =>
    cases root with
    | none => grind [Medium.write, Medium.entry]
    | some entries =>
      obtain ⟨plain, short, file, rfl⟩ : isPlainName name = true ∧
          (utf8 name.toList).length ≤ Disk.maxNameLength ∧
          (∀ below, entries.find? (utf8 name.toList) ≠ some (.folder below)) ∧
          Medium.folder path (some (entries.put (utf8 name.toList) (.file bytes))) = medium' := by
        grind [Medium.write, Medium.entry]
      have free : entries.find? (utf8 name.toList) = none := by
        cases found : entries.find? (utf8 name.toList) with
        | none => rfl
        | some node =>
          cases node with
          | folder below => exact absurd found (file below)
          | file c =>
            exact absurd (Medium.read_folder_eq_ok_iff.2 ⟨plain, short, entries, rfl, found⟩)
              (new c)
      have whole : entries.erase (utf8 name.toList) = entries :=
        List.filter_eq_self.2 fun e mem => bne_comm.trans (List.lookup_eq_none_iff.1 free e mem)
      have same := (Medium.fileNames_put entries name bytes).filter isPdfName
      rw [List.filter_append, whole, List.filter_cons_of_pos pdf] at same
      exact same.trans List.perm_append_comm

/-- A document that is written where there are none is the only one. -/
theorem documents_write_of_eq_nil {st : Store} {name : String} {bytes : Bytes}
    (empty : st.documents = []) (pdf : isPdfName name = true)
    (written : (st.write name bytes).1 = .ok ()) :
    (st.write name bytes).2.documents = [name] := by
  have new : ∀ c, ¬st.Holds name c := fun c held => by
    have mem := held.mem_documents pdf
    rw [empty] at mem
    cases mem
  exact List.perm_singleton.1 (empty ▸ documents_write new pdf written)

end Store

/-! ## Listed documents -/

theorem Ran.documents {script : String} {c : Context} {limit : Nat} {s s' : Session σ}
    {pdfs : List String} {rest : String × Context} {es : List Entry}
    (h : Ran script c limit s (.success pdfs, rest) es s') :
    pdfs = s'.sandbox.store.documents := by
  cases h
  rfl

/-- If calling functions left something, then it is what the store has. -/
def Attempt.Lists (st : Store) : Attempt → Prop
  | produced _ pdfs => pdfs = st.documents
  | nothing | stopped => True

theorem Tried.lists {deadline : Nat} {function : String} {args : List (Option String)}
    {s s' : Session σ} {result : Attempt × Context} {es : List Entry}
    (h : Tried deadline function args s result es s') : result.1.Lists s'.sandbox.store := by
  induction h with
  | raised _ _ _ _ ih => exact ih
  | produced _ _ _ still => exact still.symm
  | _ => trivial

theorem TriedAll.lists {deadline : Nat} {functions : List String} {s s' : Session σ}
    {result : Attempt × Context} {es : List Entry}
    (h : TriedAll deadline functions s result es s') : result.1.Lists s'.sandbox.store := by
  induction h with
  | exhausted => trivial
  | next _ _ _ ih => exact ih
  | decided tried => exact tried.lists

/-- The artifacts of a delivery are the documents of the store, also where they were not listed
again: a printout is only made if there are no documents, and then it is the only one. -/
theorem Resolved.documents {c c' : Context} {pdfs : List String} {printed : String}
    {options : ResolveOptions} {s s' : Session σ} {delivery : Delivery} {es : List Entry}
    (h : Resolved c pdfs printed options s (.delivered delivery, c') es s')
    (listed : pdfs = s.sandbox.store.documents)
    (undergoes : s.sandbox.store.Undergoes es s'.sandbox.store) :
    delivery.artifacts = s'.sandbox.store.documents := by
  cases h with
  | saved => exact listed
  | typeset unsaved _ _ written =>
    cases written with
    | kept =>
      obtain ⟨fits, after⟩ := undergoes.of_single
      rw [← after]
      have empty : s.sandbox.store.documents = [] := listed.symm.trans unsaved
      refine (Store.documents_write_of_eq_nil empty isPdfName_printoutName ?_).symm
      cases answer : (s.sandbox.store.write printoutName _).1 with
      | ok => rfl
      | error e =>
        simp [Entry.Fits, Access.perform, answer, Except.isOk, Except.toBool] at fits
  | produced _ _ _ _ tried => exact tried.lists

/-! ## The first document -/

/-- The output is the first document of a store, and counts them all. -/
structure Output.FirstOf (o : Output) (st : Store) : Prop where
  first : st.documents.head? = some o.artifact
  found : o.stats.artifactsFound = st.documents.length

theorem Delivered.firstOf {p : Progress} {delivery : Delivery} {s s' : Session σ} {o : Output}
    {es : List Entry} (h : Delivered config p delivery s (.ok o) es s')
    (artifacts : delivery.artifacts = s.sandbox.store.documents)
    (undergoes : s.sandbox.store.Undergoes es s'.sandbox.store) (other : o.outcome ≠ .fallback) :
    o.FirstOf s'.sandbox.store := by
  cases h with
  | unread _ _ _ reported => exact absurd reported.output.1 other
  | @delivered artifact _ _ _ _ first =>
    have still : s'.sandbox.store.documents = s.sandbox.store.documents := by
      rw [← undergoes.after_eq]
      exact Store.documents_read artifact _
    rw [← artifacts] at still
    exact ⟨by rw [still, first]; rfl, by rw [still]; rfl⟩

theorem Conducted.firstOf {p : Progress} {script : String} {s s' : Session σ} {o : Output}
    {es : List Entry} (h : Conducted config p script s (.ok o) es s')
    (undergoes : s.sandbox.store.Undergoes es s'.sandbox.store) (other : o.outcome ≠ .fallback) :
    o.FirstOf s'.sandbox.store := by
  cases h with
  | failed _ _ _ reported => exact absurd reported.output.1 other
  | unresolved _ _ _ _ _ _ reported => exact absurd reported.output.1 other
  | resolved _ _ ran leads resolved leads₁ delivered =>
    have artifacts := resolved.documents ran.documents leads₁.store
    exact delivered.firstOf artifacts
      ((undergoes.rest leads.around.store).rest leads₁.around.store) other

theorem Checked.firstOf {p : Progress} {script : String} {s s' : Session σ} {o : Output}
    {es : List Entry} (h : Checked config p script s (.ok o) es s')
    (undergoes : s.sandbox.store.Undergoes es s'.sandbox.store) (other : o.outcome ≠ .fallback) :
    o.FirstOf s'.sandbox.store := by
  cases h with
  | compiles _ leads conducted => exact conducted.firstOf (undergoes.rest leads.store) other
  | fails _ _ _ reported => exact absurd reported.output.1 other
  | repaired _ _ leads conducted => exact conducted.firstOf (undergoes.rest leads.store) other

theorem Converted.firstOf {source : String} {s s' : Session σ} {o : Output} {es : List Entry}
    (h : Converted config source s (.ok o) es s') (other : o.outcome ≠ .fallback) :
    o.FirstOf s'.sandbox.store := by
  cases h with
  | cleaned _ _ _ _ _ checked leads₁ => exact checked.firstOf leads₁.store other

theorem Output.FirstOf.le {o : Output} {st : Store} (h : o.FirstOf st) :
    ∀ name ∈ st.documents, o.artifact ≤ name := by
  obtain ⟨rest, documents⟩ := List.head?_eq_some_iff.1 h.first
  have ordered := st.pairwise_documents
  rw [documents] at ordered ⊢
  exact List.forall_mem_cons.2 ⟨String.le_refl _, (List.pairwise_cons.1 ordered).1⟩

/-- What is delivered is in the store in the end, under the name that is given for it; and unless it
is the report, it is the first of the documents there, which are as many as were counted. This is so
however the document came about and whichever calls of the store fail. -/
theorem convert_delivers_first_document (interpreter : Interpreter σ) (config : Config)
    (source : String) (s : Session σ) (o : Output)
    (ok : (convert interpreter config source s).1 = .ok o) :
    let st := (convert interpreter config source s).2.sandbox.store
    st.Holds o.artifact o.bytes ∧
      (o.outcome ≠ .fallback →
        o.artifact ∈ st.documents ∧ (∀ name ∈ st.documents, o.artifact ≤ name) ∧
          o.stats.artifactsFound = st.documents.length) := by
  obtain ⟨-, converted⟩ := (meets_convert interpreter config source s).run
  rw [ok] at converted
  refine ⟨converted.delivered.2, fun other => ?_⟩
  have firstOf := converted.firstOf other
  exact ⟨List.mem_of_head? firstOf.first, firstOf.le, firstOf.found⟩

def Interpreter.prolific : Interpreter Unit where
  name := "prolific"
  compile _ state := (none, state)
  execute _ _ state :=
    .write "b.pdf" [66] fun _ => .write "a.pdf" [65] fun _ => .finish (.ok ()) state
  invoke _ _ _ state := .finish (.ok ()) state

/-- The document that was written last is delivered, since its name comes first. -/
theorem prolific_delivers_first_document :
    let request := convert .prolific .default "pass" (.new ⟨.inMemory .none, .all⟩ ())
    ∃ o, request.1 = .ok o ∧ o.artifact = "a.pdf" ∧ o.stats.artifactsFound = 2 ∧
      request.2.sandbox.store.Holds "a.pdf" o.bytes ∧
      request.2.sandbox.store.documents.length = 2 := by
  intro request
  have delivered : (request.1.toOption.map fun o =>
      (o.outcome, o.artifact, o.stats.artifactsFound)) = some (.saved, "a.pdf", 2) := by
    decide +kernel
  cases ok : request.1 with
  | error e => simp [ok, Except.toOption] at delivered
  | ok o =>
    simp only [ok, Except.toOption, Option.map_some, Option.some.injEq, Prod.mk.injEq] at delivered
    obtain ⟨outcome, artifact, found⟩ := delivered
    have main := convert_delivers_first_document .prolific .default "pass" _ o ok
    have counted := (main.2 (by simp [outcome])).2.2
    exact ⟨o, rfl, artifact, found, artifact ▸ main.1, counted.symm.trans found⟩

end ScriptPress
