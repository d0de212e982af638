import ScriptPress.Proofs.FirstDocument

/-!
# Folders that mirror files

A store in memory and a store in a folder answer the same calls in the same way, as long as every
name is one that a folder takes. Both are compared with the files alone: what a call gives and what
it changes is said for a map of names to contents, in whatever order the folder has its entries.

## Main definitions

* `FileCall`, `FileCall.perform` — what a store can be asked for.
* `FileCall.answer`, `FileCall.effect` — what a call gives for files, and which files it leaves.
* `Mirrors` — a folder has exactly the given files, in any order.
* `Store.Keeps` — a store has exactly the given files.
* `Store.Answers` — the answers to calls one after the other, whatever order a folder has.

## Main statements

* `Store.Keeps.perform` — one call.
* `Store.Keeps.answers_iff` — one call after the other.
* `folder_answers_as_memory` — a new folder answers as a new store in memory.
-/

namespace ScriptPress

open Text

/-! ## Calls -/

inductive FileCall where
  | list
  | listPdfs
  | removePdfs
  | read (name : String)
  | write (name : String) (bytes : Bytes)
  | remove (name : String)
  deriving DecidableEq, Repr

inductive FileAnswer where
  | names (names : List String)
  | removed (count : Nat)
  | content (bytes : Bytes)
  | done
  deriving DecidableEq, Repr

/-- A name that a folder takes. -/
def IsFileName (name : String) : Prop :=
  isPlainName name = true ∧ (utf8 name.toList).length ≤ Disk.maxNameLength

instance (name : String) : Decidable (IsFileName name) := inferInstanceAs (Decidable (_ ∧ _))

namespace FileCall

/-- What comes of a call that succeeds; one that fails has no answer. -/
def answered {α : Type} (f : α → FileAnswer) (outcome : Except StoreError α × Store) :
    Option FileAnswer × Store :=
  (outcome.1.toOption.map f, outcome.2)

def perform (call : FileCall) (st : Store) : Option FileAnswer × Store :=
  match call with
  | list => answered .names st.list
  | listPdfs => answered .names (Store.listPdfs st)
  | removePdfs => answered .removed (Store.removePdfs st)
  | read name => answered .content (st.read name)
  | write name bytes => answered (fun _ => .done) (st.write name bytes)
  | remove name => answered (fun _ => .done) (st.remove name)

def run : List FileCall → Store → List (Option FileAnswer)
  | [], _ => []
  | call :: calls, st => (call.perform st).1 :: run calls (call.perform st).2

/-- The call names no other files than those that a folder takes. -/
def Admissible : FileCall → Prop
  | read name | write name _ | remove name => IsFileName name
  | _ => True

instance (call : FileCall) : Decidable call.Admissible :=
  match call with
  | read name | write name _ | remove name => inferInstanceAs (Decidable (IsFileName name))
  | list | listPdfs | removePdfs => .isTrue trivial

/-- What a call gives where the given files are kept. -/
def answer (files : FileMap) : FileCall → Option FileAnswer
  | list => some (.names files.names)
  | listPdfs => some (.names files.pdfNames)
  | removePdfs => some (.removed files.pdfNames.length)
  | read name => (files.find? name).map .content
  | write _ _ | remove _ => some .done

def effect (files : FileMap) : FileCall → FileMap
  | write name bytes => files.insert name bytes
  | remove name => files.erase name
  | removePdfs => files.withoutPdfs
  | _ => files

def answersFor (files : FileMap) : List FileCall → List (Option FileAnswer)
  | [] => []
  | call :: calls => call.answer files :: answersFor (call.effect files) calls

end FileCall

/-! ## Folders that mirror files -/

namespace FileMap

theorem nodup_entries (files : FileMap) : files.entries.Nodup :=
  List.Nodup.of_map _ files.nodup_names

theorem entries_insert_perm (files : FileMap) (name : String) (bytes : Bytes) :
    (files.insert name bytes).entries.Perm ((files.erase name).entries ++ [(name, bytes)]) := by
  have fresh : (name, bytes) ∉ (files.erase name).entries := fun mem => by
    simpa [find?_erase] using mem_entries_iff.1 mem
  have distinct : ((files.erase name).entries ++ [(name, bytes)]).Nodup :=
    List.nodup_append.2 ⟨nodup_entries _, List.nodup_singleton _, by
      rintro e mem _ (last : _ ∈ [_]) rfl
      exact fresh (List.mem_singleton.1 last ▸ mem)⟩
  refine (List.perm_ext_iff_of_nodup (nodup_entries _) distinct).2 fun e => ?_
  rw [List.mem_append, List.mem_singleton, mem_entries_iff, mem_entries_iff, find?_insert,
    find?_erase]
  grind

/-- A folder takes the name of each file. -/
def Fit (files : FileMap) : Prop := ∀ name ∈ files.names, IsFileName name

theorem Fit.erase {files : FileMap} (fit : files.Fit) (name : String) : (files.erase name).Fit := by
  intro n mem
  rw [mem_names_iff, find?_erase] at mem
  split at mem
  · cases mem
  · exact fit n (mem_names_iff.2 mem)

theorem Fit.insert {files : FileMap} {name : String} (fit : files.Fit) (taken : IsFileName name)
    (bytes : Bytes) : (files.insert name bytes).Fit := by
  intro n mem
  rw [mem_names_iff, find?_insert] at mem
  split at mem
  · next same => exact same ▸ taken
  · exact fit n (mem_names_iff.2 mem)

end FileMap

def folderEntry (e : String × Bytes) : Bytes × Disk.Node := (utf8 e.1.toList, .file e.2)

/-- The folder has exactly the given files, in any order. -/
def Mirrors (files : FileMap) (root : Disk.Folder) : Prop :=
  root.Perm (files.entries.map folderEntry)

namespace Mirrors

variable {files : FileMap} {root root' : Disk.Folder}

theorem of_perm (h : Mirrors files root) (order : root.Perm root') : Mirrors files root' :=
  order.symm.trans h

theorem mem_iff (h : Mirrors files root) {raw : Bytes} {node : Disk.Node} :
    (raw, node) ∈ root ↔ ∃ name bytes, files.find? name = some bytes ∧
      utf8 name.toList = raw ∧ .file bytes = node := by
  rw [List.Perm.mem_iff h, List.mem_map]
  constructor
  · rintro ⟨⟨name, bytes⟩, mem, same⟩
    cases same
    exact ⟨name, bytes, FileMap.mem_entries_iff.1 mem, rfl, rfl⟩
  · rintro ⟨name, bytes, found, rfl, rfl⟩
    exact ⟨(name, bytes), FileMap.mem_entries_iff.2 found, rfl⟩

theorem nodup (h : Mirrors files root) : (root.map (·.1)).Nodup := by
  have keys : (root.map (·.1)).Perm (files.names.map fun name => utf8 name.toList) := by
    have mapped := h.map (·.1)
    simpa [List.map_map, Function.comp_def, folderEntry, FileMap.names] using mapped
  exact keys.nodup_iff.2 (files.nodup_names.map fun a b same => utf8_toList_inj.1 same)

/-- Under each name the same is found. -/
theorem find?_eq (h : Mirrors files root) (name : String) :
    root.find? (utf8 name.toList) = (files.find? name).map .file := by
  cases found : files.find? name with
  | some bytes => exact lookup_of_mem_of_nodup h.nodup (h.mem_iff.2 ⟨name, bytes, found, rfl, rfl⟩)
  | none =>
    refine List.lookup_eq_none_iff.2 fun e mem => ?_
    obtain ⟨n, bytes, held, same, -⟩ := h.mem_iff.1 (show (e.1, e.2) ∈ root from mem)
    have other : utf8 name.toList ≠ e.1 := fun here => by
      rw [utf8_toList_inj.1 (here.trans same.symm), held] at found
      cases found
    simpa using other

/-- The same names are listed: sorting forgets the order of the folder. -/
theorem fileNames_eq (h : Mirrors files root) : Medium.fileNames root = files.names := by
  have same : (Medium.fileNames root).Perm files.names := by
    refine (List.mergeSort_perm _ _).trans ((h.filterMap _).trans (.of_eq ?_))
    rw [List.filterMap_map, FileMap.names, ← List.filterMap_eq_map]
    refine List.filterMap_congr fun e _ => ?_
    simp [folderEntry, decodeUtf8Lossy_utf8]
  refine same.eq_of_pairwise (fun a b _ _ le le' => String.le_antisymm le le')
    (Medium.pairwise_fileNames root) ?_
  exact files.pairwise_names.imp fun lt => String.not_lt.1 (String.lt_asymm lt)

theorem erase (h : Mirrors files root) (name : String) :
    Mirrors (files.erase name) (root.erase (utf8 name.toList)) := by
  refine (h.filter _).trans (.of_eq ?_)
  rw [List.filter_map, FileMap.erase]
  congr 1
  refine List.filter_congr fun e _ => ?_
  by_cases same : e.1 = name <;> simp [folderEntry, utf8_toList_inj, same]

theorem put (h : Mirrors files root) (name : String) (bytes : Bytes) :
    Mirrors (files.insert name bytes) (root.put (utf8 name.toList) (.file bytes)) := by
  refine ((h.erase name).append_right [folderEntry (name, bytes)]).trans ?_
  simpa using ((files.entries_insert_perm name bytes).map folderEntry).symm

end Mirrors

/-! ## Stores that keep files -/

theorem Medium.entry_of_isFileName {root : Disk.Folder} {name : String} (taken : IsFileName name) :
    entry (some root) name = .ok (root, root.find? (utf8 name.toList)) :=
  if_neg (Nat.not_lt.2 taken.2)

namespace Store

/-- The same store, where a folder may have its entries in another order. -/
inductive Rearranged : Store → Store → Prop
  | refl (st : Store) : Rearranged st st
  | folder {path : String} {root root' : Disk.Folder} {faults : FaultPlan}
      (order : root.Perm root') :
    Rearranged ⟨.folder path (some root), faults⟩ ⟨.folder path (some root'), faults⟩

/-- Answers to calls one after the other, where a folder may bring its entries into another order
before each call. -/
inductive Answers : Store → List FileCall → List (Option FileAnswer) → Prop
  | nil (st : Store) : Answers st [] []
  | cons {st st' : Store} {call : FileCall} {calls : List FileCall}
      {answers : List (Option FileAnswer)} (order : st.Rearranged st')
      (rest : Answers (call.perform st').2 calls answers) :
    Answers st (call :: calls) ((call.perform st').1 :: answers)

/-- The answers of a folder that keeps its order are among them. -/
theorem answers_run (st : Store) (calls : List FileCall) :
    st.Answers calls (FileCall.run calls st) := by
  induction calls generalizing st with
  | nil => exact .nil st
  | cons call calls ih => exact .cons (.refl st) (ih _)

/-- The store in a folder with the given entries; none of its calls is refused. -/
def ofFolder (path : String) (root : Disk.Folder) : Store := ⟨.folder path (some root), .none⟩

/-- The store has exactly the given files, under names that a folder takes, and none of its calls is
refused. -/
inductive Keeps (files : FileMap) : Store → Prop
  | memory (fit : files.Fit) : Keeps files (ofFiles files)
  | folder (path : String) {root : Disk.Folder} (fit : files.Fit) (mirrors : Mirrors files root) :
    Keeps files (ofFolder path root)

namespace Keeps

variable {files : FileMap} {st : Store} {name : String}

theorem fit (h : Keeps files st) : files.Fit := by
  cases h <;> assumption

theorem list (h : Keeps files st) : st.list = (.ok files.names, st) := by
  cases h with
  | memory => exact list_ofFiles files
  | folder path _ mirrors =>
    rw [Store.list, ofFolder, attempt_none, Medium.list, mirrors.fileNames_eq]
    rfl

theorem read (h : Keeps files st) (taken : IsFileName name) :
    (st.read name).1.toOption = files.find? name ∧ (st.read name).2 = st := by
  cases h with
  | memory =>
    rw [Store.read, attempt_ofFiles, Medium.read]
    cases files.find? name <;> exact ⟨rfl, rfl⟩
  | folder path _ mirrors =>
    rw [Store.read, ofFolder, attempt_none, Medium.read, taken.1,
      Medium.entry_of_isFileName taken, mirrors.find?_eq]
    cases files.find? name <;> exact ⟨rfl, rfl⟩

theorem write (h : Keeps files st) (taken : IsFileName name) (bytes : Bytes) :
    ∃ st', st.write name bytes = (.ok (), st') ∧ Keeps (files.insert name bytes) st' := by
  have fit := h.fit.insert taken bytes
  cases h with
  | memory => exact ⟨_, by rw [write_ofFiles, if_pos taken.1], .memory fit⟩
  | folder path _ mirrors =>
    refine ⟨_, ?_, .folder path fit (mirrors.put name bytes)⟩
    rw [Store.write, ofFolder, attempt_none, Medium.write, taken.1,
      Medium.entry_of_isFileName taken, mirrors.find?_eq]
    cases files.find? name <;> rfl

theorem remove (h : Keeps files st) (taken : IsFileName name) :
    ∃ st', st.remove name = (.ok (), st') ∧ Keeps (files.erase name) st' := by
  have fit := h.fit.erase name
  cases h with
  | memory => exact ⟨_, remove_ofFiles files name, .memory fit⟩
  | folder path _ mirrors =>
    refine ⟨_, ?_, .folder path fit (mirrors.erase name)⟩
    rw [Store.remove, ofFolder, attempt_none, Medium.remove, taken.1,
      Medium.entry_of_isFileName taken, mirrors.find?_eq]
    cases files.find? name <;> rfl

theorem listPdfs (h : Keeps files st) : Store.listPdfs st = (.ok files.pdfNames, st) := by
  have listed : (Store.list : StateM Store _) st = (.ok files.names, st) := h.list
  simp only [Store.listPdfs, pdfsBy, Bind.bind, StateT.bind, listed]
  rfl

/-- Files are dropped one after the other. -/
theorem removeEachBy (h : Keeps files st) {names : List String}
    (taken : ∀ name ∈ names, IsFileName name) :
    ∃ st', Store.removeEachBy (m := StateM Store) Store.remove names st = (names.length, st') ∧
      Keeps (files.eraseAll names) st' := by
  induction names generalizing files st with
  | nil => exact ⟨st, rfl, h⟩
  | cons name names ih =>
    obtain ⟨here, there⟩ := List.forall_mem_cons.1 taken
    obtain ⟨st₁, dropped, kept⟩ := h.remove here
    obtain ⟨st', rest, kept'⟩ := ih kept there
    refine ⟨st', ?_, kept'⟩
    simp only [Store.removeEachBy, Bind.bind, StateT.bind, dropped, rest]
    rfl

/-- All documents go, and nothing else. -/
theorem removePdfs (h : Keeps files st) :
    ∃ st', Store.removePdfs st = (.ok files.pdfNames.length, st') ∧
      Keeps files.withoutPdfs st' := by
  have listed : pdfsBy (m := StateM Store) Store.list st = (.ok files.pdfNames, st) := h.listPdfs
  have taken : ∀ name ∈ files.pdfNames, IsFileName name := fun name mem =>
    h.fit name (List.mem_of_mem_filter mem)
  obtain ⟨st', dropped, kept⟩ := h.removeEachBy taken
  refine ⟨st', ?_, kept⟩
  simp only [Store.removePdfs, removePdfsBy, Bind.bind, StateT.bind, listed, dropped]
  rfl

/-- What a call gives, and what it leaves, is said by the files alone. -/
theorem perform (h : Keeps files st) {call : FileCall} (admissible : call.Admissible) :
    (call.perform st).1 = call.answer files ∧ Keeps (call.effect files) (call.perform st).2 := by
  cases call with
  | list =>
    rw [FileCall.perform, FileCall.answered, h.list]
    exact ⟨rfl, h⟩
  | listPdfs =>
    rw [FileCall.perform, FileCall.answered, h.listPdfs]
    exact ⟨rfl, h⟩
  | removePdfs =>
    obtain ⟨st', dropped, kept⟩ := h.removePdfs
    rw [FileCall.perform, FileCall.answered, dropped]
    exact ⟨rfl, kept⟩
  | read name =>
    obtain ⟨found, same⟩ := h.read admissible
    rw [FileCall.perform, FileCall.answered, found, same]
    exact ⟨rfl, h⟩
  | write name bytes =>
    obtain ⟨st', written, kept⟩ := h.write admissible bytes
    rw [FileCall.perform, FileCall.answered, written]
    exact ⟨rfl, kept⟩
  | remove name =>
    obtain ⟨st', removed, kept⟩ := h.remove admissible
    rw [FileCall.perform, FileCall.answered, removed]
    exact ⟨rfl, kept⟩

theorem rearranged {st' : Store} (h : Keeps files st) (order : st.Rearranged st') :
    Keeps files st' := by
  cases h with
  | memory fit =>
    cases order
    exact .memory fit
  | folder path fit mirrors =>
    cases order with
    | refl => exact .folder path fit mirrors
    | folder order => exact .folder path fit (mirrors.of_perm order)

/-- The answers to calls one after the other are those for the files, whatever order a folder has
before each of them. -/
theorem answers_eq (h : Keeps files st) {calls : List FileCall}
    (admissible : ∀ call ∈ calls, call.Admissible) {answers : List (Option FileAnswer)}
    (given : st.Answers calls answers) : answers = FileCall.answersFor files calls := by
  induction calls generalizing files st answers with
  | nil =>
    cases given
    rfl
  | cons call calls ih =>
    obtain ⟨here, there⟩ := List.forall_mem_cons.1 admissible
    cases given with
    | cons order rest =>
      obtain ⟨answer, kept⟩ := (h.rearranged order).perform here
      rw [answer, ih kept there rest]
      rfl

theorem run (h : Keeps files st) {calls : List FileCall}
    (admissible : ∀ call ∈ calls, call.Admissible) :
    FileCall.run calls st = FileCall.answersFor files calls :=
  h.answers_eq admissible (answers_run st calls)

theorem answers_iff (h : Keeps files st) {calls : List FileCall}
    (admissible : ∀ call ∈ calls, call.Admissible) {answers : List (Option FileAnswer)} :
    st.Answers calls answers ↔ answers = FileCall.answersFor files calls := by
  refine ⟨h.answers_eq admissible, ?_⟩
  rintro rfl
  exact h.run admissible ▸ answers_run st calls

end Keeps

end Store

/-- A new folder gives the same answers to the same calls as a new store in memory, in whatever
order the folder has its entries at each call. -/
theorem folder_answers_as_memory (path : String) (calls : List FileCall)
    (admissible : ∀ call ∈ calls, call.Admissible) (answers : List (Option FileAnswer)) :
    (Store.inFolder path).Answers calls answers ↔
      answers = FileCall.run calls (.inMemory .none) := by
  have fit : FileMap.empty.Fit := by simp [FileMap.Fit, FileMap.names, FileMap.empty]
  have folder : Store.Keeps .empty (.inFolder path) := .folder path fit (.refl [])
  have memory : Store.Keeps .empty (.inMemory .none) := .memory fit
  rw [memory.run admissible, folder.answers_iff admissible]

/-- A document and a note, the document read and dropped again. -/
theorem document_and_note_answered :
    (∀ call ∈ [FileCall.write "b.pdf" [37], .write "a.txt" [], .list, .listPdfs, .read "b.pdf",
      .remove "c.txt", .removePdfs, .read "b.pdf", .list], call.Admissible) ∧
    ∀ answers, (Store.inFolder "sandbox").Answers
        [.write "b.pdf" [37], .write "a.txt" [], .list, .listPdfs, .read "b.pdf",
          .remove "c.txt", .removePdfs, .read "b.pdf", .list] answers ↔
      answers = [some .done, some .done, some (.names ["a.txt", "b.pdf"]),
        some (.names ["b.pdf"]), some (.content [37]), some .done, some (.removed 1), none,
        some (.names ["a.txt"])] := by
  refine ⟨?admissible, fun answers =>
    (folder_answers_as_memory _ _ ?admissible answers).trans (Eq.congr_right ?run)⟩
  case admissible => decide +kernel
  case run => decide +kernel

end ScriptPress
