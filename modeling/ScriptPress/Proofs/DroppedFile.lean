import ScriptPress.Proofs.RemovedFile

/-!
# Dropped files

Once all documents are dropped, no document can be read any more. None is listed either, if names
are what they seem, as they are in memory. In a folder another program may have used a name that is
no text; what is listed in its place is the name of no file, and dropping it drops nothing.

## Main definitions

* `Store.NamesTexts` — the documents have texts for names.
* `Store.HoldsNoDocument` — no document can be read.
* `Entry.still` — an entry changes no file.

## Main statements

* `Removals.holdsNoDocument`, `Removals.documents_eq_nil_iff` — what is left when all documents are
  dropped.
* `Store.Undergoes.medium_eq` — where no file changes, the medium is the same.
-/

namespace ScriptPress

open Text

/-! ## Names of documents -/

namespace Store

/-- The documents have texts for names. -/
def NamesTexts (st : Store) : Prop :=
  ∀ f ∈ st.content, isPdfName (listedName f.1) = true → IsText f.1

/-- No document can be read. -/
def HoldsNoDocument (st : Store) : Prop :=
  ∀ name bytes, isPdfName name = true → ¬st.Holds name bytes

/-- In memory all names are texts. -/
theorem namesTexts_memory (files : FileMap) (faults : FaultPlan) :
    NamesTexts ⟨.memory files, faults⟩ := by
  intro f mem _
  obtain ⟨e, -, rfl⟩ := List.mem_map.1 mem
  simp [IsText, decodeUtf8Lossy_utf8]

theorem mem_documents_iff {st : Store} {name : String} :
    name ∈ st.documents ↔
      (∃ f ∈ st.content, listedName f.1 = name) ∧ isPdfName name = true := by
  rw [st.documents_perm.mem_iff, List.mem_filter, List.mem_map]

/-- What is held under a name is a file whose name is that text. -/
theorem Holds.mem_content {st : Store} {name : String} {bytes : Bytes} (h : st.Holds name bytes) :
    (utf8 name.toList, bytes) ∈ st.content := by
  obtain ⟨medium, faults⟩ := st
  cases medium with
  | memory files =>
    have found := Medium.read_memory_eq_ok_iff.1 h
    exact List.mem_map.2 ⟨(name, bytes), mem_of_lookup found, rfl⟩
  | folder path root =>
    obtain ⟨-, -, entries, rfl, found⟩ := Medium.read_folder_eq_ok_iff.1 h
    exact List.mem_filterMap.2 ⟨_, mem_of_lookup found, rfl⟩

end Store

/-! ## Dropping the documents -/

namespace Removals

variable {names : List String} {es : List Entry} {st st' : Store}

theorem tries_of_faultless (h : Removals names es) (faultless : Faultless es) (name : String) :
    (name, true) ∈ tries es ↔ name ∈ names := by
  induction h with
  | nil => simp [tries]
  | @cons n names es ok rest ih =>
    have parts : Faultless ([.accessed .request (.remove n) ok] ++ es) := faultless
    obtain ⟨succeeded, later⟩ := faultless_append.1 parts
    cases ok with
    | false => exact absurd List.mem_cons_self (succeeded _)
    | true => simp [ih later]

variable (h : Removals st.documents es) (undergoes : st.Undergoes es st')
  (faultless : Faultless es)

include h undergoes faultless

/-- Of the documents, those are left whose names are no texts. -/
theorem mem_content_iff_of_faultless {f : Bytes × Bytes} :
    f ∈ st'.content ↔
      f ∈ st.content ∧ ¬(Store.isPdfName (listedName f.1) = true ∧ IsText f.1) := by
  rw [h.mem_content_iff undergoes, h.tries_of_faultless faultless]
  refine and_congr_right fun mem => ?_
  have listed : listedName f.1 ∈ st.documents ↔ Store.isPdfName (listedName f.1) = true := by
    rw [Store.mem_documents_iff, and_iff_right ⟨f, mem, rfl⟩]
  rw [listed]

/-- Once all documents are dropped, none can be read. -/
theorem holdsNoDocument : st'.HoldsNoDocument := by
  intro name bytes pdf held
  have left := (h.mem_content_iff_of_faultless undergoes faultless).1 held.mem_content
  obtain ⟨named, text⟩ := utf8_eq_iff.1 (rfl : utf8 name.toList = utf8 name.toList)
  exact left.2 ⟨named.symm ▸ pdf, text⟩

/-- Once all documents are dropped, there are none, exactly if they had texts for names. -/
theorem documents_eq_nil_iff : st'.documents = [] ↔ st.NamesTexts := by
  simp only [List.eq_nil_iff_forall_not_mem, Store.mem_documents_iff,
    h.mem_content_iff_of_faultless undergoes faultless]
  constructor
  · intro none f mem pdf
    by_contra strange
    exact none _ ⟨⟨f, ⟨mem, fun gone => strange gone.2⟩, rfl⟩, pdf⟩
  · rintro texts _ ⟨⟨f, ⟨mem, left⟩, rfl⟩, pdf⟩
    exact left ⟨pdf, texts f mem pdf⟩

end Removals

/-! ## Where no file changes -/

/-- Whether an entry changes no file. -/
def Entry.still : Entry → Bool
  | accessed _ (.write _ _) ok | accessed _ (.remove _) ok => !ok
  | placed _ _ => false
  | _ => true

theorem Store.medium_attempt_of_failed {α : Type} {call : StoreCall}
    {act : Medium → Except StoreError (α × Medium)} {st : Store}
    (failed : (attempt call act st).1.isOk = false) :
    (attempt call act st).2.medium = st.medium := by
  cases answer : (attempt call act st).1 with
  | ok _ => simp [answer, Except.isOk, Except.toBool] at failed
  | error e => exact medium_attempt_of_error answer

theorem Entry.medium_effect {e : Entry} {st : Store} (still : e.still) (fits : e.Fits st) :
    (e.effect st).medium = st.medium := by
  cases e with
  | accessed actor a ok =>
    cases a with
    | list => exact st.medium_list
    | read name => exact st.medium_read name
    | write name bytes =>
      obtain rfl : ok = false := by simpa [Entry.still] using still
      exact Store.medium_attempt_of_failed fits
    | remove name =>
      obtain rfl : ok = false := by simpa [Entry.still] using still
      exact Store.medium_attempt_of_failed fits
  | placed => cases still
  | _ => rfl

/-- Where no file changes, the medium is the same. -/
theorem Store.Undergoes.medium_eq {st st' : Store} {es : List Entry} (h : st.Undergoes es st')
    (still : ∀ e ∈ es, e.still) : st'.medium = st.medium := by
  induction h with
  | nil => rfl
  | cons fits _ ih =>
    obtain ⟨here, later⟩ := List.forall_mem_cons.1 still
    exact (ih later).trans (Entry.medium_effect here fits)

/-- Where no file changes, there are the same documents. -/
theorem Store.Undergoes.documents_eq {st st' : Store} {es : List Entry} (h : st.Undergoes es st')
    (still : ∀ e ∈ es, e.still) : st'.documents = st.documents := by
  rw [documents, h.medium_eq still, documents]

theorem Store.Undergoes.holdsNoDocument {st st' : Store} {es : List Entry}
    (h : st.Undergoes es st') (still : ∀ e ∈ es, e.still) (none : st.HoldsNoDocument) :
    st'.HoldsNoDocument := by
  intro name bytes pdf held
  rw [Holds, h.medium_eq still] at held
  exact none name bytes pdf held

end ScriptPress
