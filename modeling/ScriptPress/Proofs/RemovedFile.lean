import ScriptPress.Proofs.FirstDocument

/-!
# Removed files

The documents are listed and each that is listed is removed, whatever becomes of the others. A
removal that succeeds takes away the files whose name is the one that was listed. In a folder
another program may have used a name that is no text: its file is listed under another name, the
removal of which succeeds and takes nothing away.

## Main definitions

* `Store.content` — the files of a store, with the bytes of their names.
* `listedName`, `IsText` — the name under which a file is listed, and whether it is the file's own.
* `tries` — the removals that were tried, and whether they succeeded.

## Main statements

* `Removals.content_eq` — what is left after removals.
* `removePdfs_store` — a request and a store remove the same files.
* `removed_gone_iff` — exactly the files whose removal succeeded are gone where names are texts.
* `lossy_name_kept` — a file that is counted as removed and is still there.
-/

namespace ScriptPress

open Conversion Text

variable {σ : Type}

/-! ## The files of a store -/

/-- The files that a medium keeps, each with the bytes of its name. -/
def Medium.content : Medium → List (Bytes × Bytes)
  | memory files => files.entries.map fun e => (utf8 e.1.toList, e.2)
  | folder _ none => []
  | folder _ (some entries) => entries.filterMap fun
    | (raw, .file bytes) => some (raw, bytes)
    | _ => none

def Store.content (st : Store) : List (Bytes × Bytes) := st.medium.content

/-- The name under which a file is listed. -/
def listedName (raw : Bytes) : String := .ofList (decodeUtf8Lossy raw)

/-- The bytes of a name are those of a text. -/
def IsText (raw : Bytes) : Prop := utf8 (decodeUtf8Lossy raw) = raw

instance (raw : Bytes) : Decidable (IsText raw) := inferInstanceAs (Decidable (_ = _))

/-- A text is the name under which its file is listed, and a name of no other file. -/
theorem utf8_eq_iff {name : String} {raw : Bytes} :
    utf8 name.toList = raw ↔ listedName raw = name ∧ IsText raw := by
  constructor
  · rintro rfl
    simp [listedName, IsText, decodeUtf8Lossy_utf8]
  · rintro ⟨rfl, text⟩
    rwa [listedName, String.toList_ofList]

namespace Medium

theorem remove_memory_eq_ok_iff {files : FileMap} {name : String} {m : Medium} :
    (memory files).remove name = .ok m ↔ memory (files.erase name) = m := by
  grind [remove]

theorem remove_folder_eq_ok_iff {path name : String} {entries : Disk.Folder} {m : Medium} :
    (folder path (some entries)).remove name = .ok m ↔ isPlainName name = true ∧
      (utf8 name.toList).length ≤ Disk.maxNameLength ∧
      (∀ below, entries.find? (utf8 name.toList) ≠ some (.folder below)) ∧
      folder path (some (entries.erase (utf8 name.toList))) = m := by
  grind [remove, entry]

theorem remove_gone_eq_ok {path name : String} {m : Medium}
    (h : (folder path none).remove name = .ok m) : m = folder path none := by
  grind [remove, entry]

end Medium

theorem Medium.content_remove {m m' : Medium} {name : String} (h : m.remove name = .ok m') :
    m'.content = m.content.filter (·.1 ≠ utf8 name.toList) := by
  cases m with
  | memory files =>
    obtain rfl := remove_memory_eq_ok_iff.1 h
    simp only [content, FileMap.erase, List.filter_map]
    congr 1
    refine List.filter_congr fun e _ => ?_
    simp [utf8_toList_inj]
  | folder path root =>
    cases root with
    | none =>
      rw [remove_gone_eq_ok h]
      rfl
    | some entries =>
      obtain ⟨-, -, -, rfl⟩ := remove_folder_eq_ok_iff.1 h
      simp only [content, Disk.Folder.erase, List.filterMap_filter, List.filter_filterMap]
      refine List.filterMap_congr fun e _ => ?_
      obtain ⟨raw, node⟩ := e
      cases node <;> by_cases same : raw = utf8 name.toList <;> simp [same, Option.filter]

theorem Store.content_remove (st : Store) (name : String) :
    (st.remove name).2.content = st.content.filter fun f =>
      !((st.remove name).1.isOk && decide (f.1 = utf8 name.toList)) := by
  cases answer : (st.remove name).1 with
  | ok _ =>
    rw [content, Medium.content_remove (remove_of_ok answer), content]
    refine List.filter_congr fun f _ => ?_
    simp [Except.isOk, Except.toBool]
  | error e =>
    have same : (st.remove name).2.medium = st.medium := medium_attempt_of_error answer
    simp [content, same, Except.isOk, Except.toBool]

/-- The documents are the files whose listed names are those of documents. -/
theorem Store.documents_perm (st : Store) :
    st.documents.Perm ((st.content.map fun f => listedName f.1).filter isPdfName) := by
  obtain ⟨medium, faults⟩ := st
  refine List.Perm.filter _ ?_
  cases medium with
  | memory files =>
    refine .of_eq ?_
    simp [Medium.list, Except.toOption, FileMap.names, content, Medium.content, listedName,
      decodeUtf8Lossy_utf8]
  | folder path root =>
    cases root with
    | none => exact .nil
    | some entries =>
      refine (List.mergeSort_perm _ _).trans (.of_eq ?_)
      rw [content, Medium.content, List.map_filterMap]
      refine List.filterMap_congr fun e _ => ?_
      obtain ⟨raw, node⟩ := e
      cases node <;> rfl

/-! ## Removals -/

/-- The removals that were tried, in order, and whether they succeeded. -/
def tries (es : List Entry) : List (String × Bool) :=
  es.filterMap fun
    | .accessed .request (.remove name) ok => some (name, ok)
    | _ => none

@[simp] theorem tries_cons_remove (name : String) (ok : Bool) (es : List Entry) :
    tries (.accessed .request (.remove name) ok :: es) = (name, ok) :: tries es := rfl

/-- Each file is tried, one after the other. -/
theorem Removals.tried {names : List String} {es : List Entry} (h : Removals names es) :
    (tries es).map (·.1) = names := by
  induction h with
  | nil => rfl
  | cons _ _ ih => rw [tries_cons_remove, List.map_cons, ih]

/-- A file is left if no removal under its name succeeded. -/
theorem Removals.content_eq {names : List String} {es : List Entry} (h : Removals names es)
    {st st' : Store} (undergoes : st.Undergoes es st') : st'.content = st.content.filter fun f =>
      (tries es).all fun t => !(t.2 && decide (f.1 = utf8 t.1.toList)) := by
  induction h generalizing st with
  | nil =>
    cases undergoes
    simp [tries]
  | @cons name names es ok rest ih =>
    cases undergoes with
    | cons fits later =>
      obtain rfl : (st.remove name).1.isOk = ok := fits
      rw [ih later, tries_cons_remove]
      simp only [Entry.effect, Access.perform, Store.content_remove, List.filter_filter,
        List.all_cons]
      exact List.filter_congr fun f _ => Bool.and_comm _ _

/-- Under a name that is no text there is no file to remove. -/
theorem Removals.mem_content_iff {names : List String} {es : List Entry} (h : Removals names es)
    {st st' : Store} (undergoes : st.Undergoes es st') {f : Bytes × Bytes} :
    f ∈ st'.content ↔
      f ∈ st.content ∧ ¬((listedName f.1, true) ∈ tries es ∧ IsText f.1) := by
  rw [h.content_eq undergoes, List.mem_filter, List.all_eq_true]
  refine and_congr_right fun _ => ⟨fun left gone => ?_, fun left t mem => ?_⟩
  · have kept := left _ gone.1
    simp [utf8_eq_iff.2 ⟨rfl, gone.2⟩] at kept
  · obtain ⟨name, ok⟩ := t
    cases ok with
    | false => rfl
    | true =>
      have other : f.1 ≠ utf8 name.toList := fun same => by
        obtain ⟨rfl, text⟩ := utf8_eq_iff.1 same.symm
        exact left ⟨mem, text⟩
      simp [other]

/-- As many removals as succeeded are counted. -/
theorem Conversion.meets_removeEachBy_count (names : List String) (s : Session σ) :
    Meets (Store.removeEachBy remove names) s fun n es _ => n = (tries es).countP (·.2) := by
  induction names generalizing s with
  | nil => exact meets_pure rfl
  | cons name names ih =>
    refine (meets_remove name s).bind fun r es s₁ _ h => ?_
    subst h
    cases r with
    | ok _ =>
      refine (ih s₁).bind fun n es' s₂ _ count => meets_pure ?_
      simp [count, Except.isOk, Except.toBool]
    | error _ =>
      refine (ih s₁).mono fun n es' s₂ _ count => ?_
      simp [count, Except.isOk, Except.toBool]

theorem Conversion.meets_removePdfs_count (s : Session σ) :
    Meets removePdfs s fun r es _ => ∀ n, r = .ok n → n = (tries es).countP (·.2) := by
  unfold removePdfs Store.removePdfsBy
  refine (meets_listPdfs s).bind fun r es s₁ _ h => ?_
  obtain ⟨rfl, -⟩ := h
  cases r with
  | error e => exact meets_pure nofun
  | ok names =>
    refine (meets_removeEachBy_count names s₁).bind fun n es s₂ _ count => meets_pure ?_
    rintro _ ⟨⟩
    simpa [tries, List.filterMap_cons] using count

/-- A request and a store remove the same files. -/
theorem removePdfs_store (s : Session σ) :
    Store.removePdfs s.sandbox.store =
      ((Conversion.removePdfs s).1, (Conversion.removePdfs s).2.sandbox.store) := by
  have each (names : List String) (s : Session σ) :
      Store.removeEachBy (m := StateM Store) Store.remove names s.sandbox.store =
        ((Store.removeEachBy Conversion.remove names s).1,
          (Store.removeEachBy Conversion.remove names s).2.sandbox.store) := by
    induction names generalizing s with
    | nil => rfl
    | cons name names ih =>
      rcases tried : Conversion.remove name s with ⟨r, s₁⟩
      have same : Store.remove name s.sandbox.store = (r, s₁.sandbox.store) :=
        congrArg (fun x => (x.1, x.2.sandbox.store)) tried
      have rest := ih s₁
      simp only [Store.removeEachBy, Bind.bind, StateT.bind, tried, same]
      cases r with
      | ok _ => simp only [StateT.bind, rest]; rfl
      | error e => exact rest
  rcases listed : Conversion.list s with ⟨r, s₁⟩
  have same : Store.list s.sandbox.store = (r, s₁.sandbox.store) :=
    congrArg (fun x => (x.1, x.2.sandbox.store)) listed
  simp only [Store.removePdfs, Conversion.removePdfs, Store.removePdfsBy, Store.pdfsBy, Bind.bind,
    StateT.bind, listed, same]
  cases r with
  | error e => rfl
  | ok names =>
    exact congrArg (fun x : Nat × Store => (Except.ok x.1, x.2))
      (each (names.filter Store.isPdfName) s₁)

/-! ## Removing the documents -/

/-- A listing that fails is all that happens. -/
theorem removePdfs_error {s : Session σ} {e : StoreError}
    (failed : (removePdfs s).1 = .error e) :
    s.sandbox.store.list.1 = .error e ∧ tries (entries removePdfs s) = [] ∧
      (removePdfs s).2.sandbox.store.medium = s.sandbox.store.medium := by
  obtain ⟨leads, removed⟩ := (meets_removePdfs s).run
  rw [failed] at removed
  obtain ⟨told, unlisted⟩ := removed
  have store := leads.store
  rw [told] at store ⊢
  obtain ⟨-, effect⟩ := store.of_single
  exact ⟨unlisted, rfl, (congrArg Store.medium effect).symm.trans s.sandbox.store.medium_list⟩

/-- Each document is tried, and a file is left if it is not one whose name is a text and whose
removal succeeded. -/
theorem removePdfs_ok {s : Session σ} {n : Nat} (counted : (removePdfs s).1 = .ok n) :
    (tries (entries removePdfs s)).map (·.1) = s.sandbox.store.documents ∧
      ∀ f, f ∈ (removePdfs s).2.sandbox.store.content ↔
        f ∈ s.sandbox.store.content ∧
          ¬((listedName f.1, true) ∈ tries (entries removePdfs s) ∧ IsText f.1) := by
  obtain ⟨leads, removed⟩ := (meets_removePdfs s).run
  rw [counted] at removed
  obtain ⟨listed, removals, removed, told⟩ := removed
  have tried : tries (entries removePdfs s) = tries removals := by
    rw [told]
    rfl
  have store := leads.store
  rw [told] at store
  refine ⟨tried ▸ removed.tried, fun f => ?_⟩
  cases store with
  | cons _ later =>
    rw [tried, removed.mem_content_iff later]
    simp only [Store.content, Entry.effect, Access.perform, Store.medium_list]

/-- What is gone is what was removed under names that are texts; so it is what was removed where
each name is a text under which a removal succeeded. -/
theorem gone_iff_removed_iff {before after : List (Bytes × Bytes)} (removed : String → Prop)
    (left : ∀ f, f ∈ after ↔ f ∈ before ∧ ¬(removed (listedName f.1) ∧ IsText f.1)) :
    (∀ f ∈ before, f ∉ after ↔ removed (listedName f.1)) ↔
      ∀ f ∈ before, removed (listedName f.1) → IsText f.1 := by
  have gone {f : Bytes × Bytes} (mem : f ∈ before) :
      f ∉ after ↔ removed (listedName f.1) ∧ IsText f.1 := by
    rw [left, not_and, not_not]
    exact ⟨fun h => h mem, fun h _ => h⟩
  constructor
  · intro all f mem succeeded
    exact ((gone mem).1 ((all f mem).2 succeeded)).2
  · intro texts f mem
    rw [gone mem]
    exact ⟨fun h => h.1, fun succeeded => ⟨succeeded, texts f mem succeeded⟩⟩

/-- Removing the documents fails with the listing and changes nothing; or it tries each document
once, in the order of the listing, and says how many removals succeeded. Then the files are gone
whose names are texts and whose removal succeeded, and no others. So these are exactly the files
whose removal succeeded, where each of them has a text for its name. A request and a store do the
same. -/
theorem removed_gone_iff (s : Session σ) :
    let answer := (removePdfs s).1
    let es := entries removePdfs s
    let before := s.sandbox.store
    let after := (removePdfs s).2.sandbox.store
    Store.removePdfs before = (answer, after) ∧
      (∀ e, answer = .error e →
        before.list.1 = .error e ∧ tries es = [] ∧ after.medium = before.medium) ∧
      ∀ n, answer = .ok n →
        (tries es).map (·.1) = before.documents ∧
        before.documents.Perm ((before.content.map fun f => listedName f.1).filter
          Store.isPdfName) ∧
        n = (tries es).countP (·.2) ∧
        (∀ f, f ∈ after.content ↔
          f ∈ before.content ∧ ¬((listedName f.1, true) ∈ tries es ∧ IsText f.1)) ∧
        ((∀ f ∈ before.content, f ∉ after.content ↔ (listedName f.1, true) ∈ tries es) ↔
          ∀ f ∈ before.content, (listedName f.1, true) ∈ tries es → IsText f.1) := by
  intro answer es before after
  refine ⟨removePdfs_store s, fun e failed => removePdfs_error failed, fun n counted => ?_⟩
  obtain ⟨tried, left⟩ := removePdfs_ok counted
  have count := (meets_removePdfs_count s).run.2 n counted
  exact ⟨tried, before.documents_perm, count, left,
    gone_iff_removed_iff (fun name => (name, true) ∈ tries es) left⟩

/-- A session with two documents and a note in memory, the first removal of which will be
refused. -/
def refusedSession : Session Unit :=
  .new ⟨⟨.memory (((FileMap.empty.insert "a.pdf" [65]).insert "b.pdf" [66]).insert "c.txt" [67]),
    .ofNumbers fun call => if call = .remove then [0] else []⟩, .all⟩ ()

/-- The document whose removal was refused is still there, and so is the note. -/
theorem refused_kept :
    (removePdfs refusedSession).1 = .ok 1 ∧
      tries (entries removePdfs refusedSession) = [("a.pdf", false), ("b.pdf", true)] ∧
      ∀ f, f ∈ (removePdfs refusedSession).2.sandbox.store.content ↔
        f ∈ refusedSession.sandbox.store.content ∧
          ¬((listedName f.1, true) ∈ [("a.pdf", false), ("b.pdf", true)] ∧ IsText f.1) := by
  have answer : (removePdfs refusedSession).1 = .ok 1 := by decide +kernel
  have tried : tries (entries removePdfs refusedSession) = [("a.pdf", false), ("b.pdf", true)] := by
    decide +kernel
  obtain ⟨-, -, -, left, -⟩ := (removed_gone_iff refusedSession).2.2 1 answer
  exact ⟨answer, tried, tried ▸ left⟩

/-- A session with a folder in which a file has a name that is no text. -/
def lossySession : Session Unit :=
  .new ⟨⟨.folder "/sandbox" (some [(0xFF :: utf8 ".pdf".toList, .file [65])]), .none⟩, .all⟩ ()

/-- One file is said to be removed, and it is still there. -/
theorem lossy_name_kept :
    (removePdfs lossySession).1 = .ok 1 ∧
      tries (entries removePdfs lossySession) = [("\uFFFD.pdf", true)] ∧
      lossySession.sandbox.store.documents = ["\uFFFD.pdf"] ∧
      (removePdfs lossySession).2.sandbox.store.content =
        lossySession.sandbox.store.content := by
  decide +kernel

end ScriptPress
