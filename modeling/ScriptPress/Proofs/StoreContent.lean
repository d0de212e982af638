import Mathlib.Tactic.SplitIfs
import ScriptPress.Proofs.Utf8
import ScriptPress.Store.Basic

/-!
# What a store holds

The content of a store, name by name, and what each call does to it. A call that fails changes
nothing, and a call about one name changes nothing under another. What can be read is listed.

## Main definitions

* `Store.Holds` — the store keeps a file with the given content under a name.
* `Store.documents` — the names of the documents that the medium keeps.

## Main statements

* `Medium.read_of_write`, `Medium.read_of_remove`, `Store.holds_of_holds_place` — reading after a
  change.
* `Medium.mem_list_of_read` — what can be read is listed.
-/

namespace ScriptPress

open Text

/-! ## Folders -/

theorem mem_of_lookup {α β : Type} [BEq α] [LawfulBEq α] {es : List (α × β)} {a : α} {b : β}
    (h : es.lookup a = some b) : (a, b) ∈ es := by
  obtain ⟨before, behind, rfl, -⟩ := List.lookup_eq_some_iff.1 h
  simp

theorem lookup_of_mem_of_nodup {α β : Type} [BEq α] [LawfulBEq α] {es : List (α × β)} {a : α}
    {b : β} (distinct : (es.map (·.1)).Nodup) (mem : (a, b) ∈ es) : es.lookup a = some b := by
  induction es with
  | nil => cases mem
  | cons e es ih =>
    obtain ⟨fresh, distinct⟩ := List.nodup_cons.1 distinct
    rcases List.mem_cons.1 mem with rfl | mem
    · exact List.lookup_cons_self
    · have other : a ≠ e.1 := fun same => fresh (List.mem_map.2 ⟨_, mem, same⟩)
      rw [List.lookup_cons, beq_false_of_ne other]
      exact ih distinct mem

namespace Disk.Folder

theorem find?_erase (f : Folder) (name n : Bytes) :
    (f.erase name).find? n = if n = name then none else f.find? n := by
  induction f with
  | nil => grind [erase, find?]
  | cons e f ih => grind [erase, find?]

theorem find?_put (f : Folder) (name n : Bytes) (node : Node) :
    (f.put name node).find? n = if n = name then some node else f.find? n := by
  have found := find?_erase f name n
  rw [put, find?, List.lookup_append]
  grind [find?]

end Disk.Folder

/-! ## Media -/

theorem utf8_toList_inj {a b : String} : utf8 a.toList = utf8 b.toList ↔ a = b := by
  refine ⟨fun h => ?_, fun h => h ▸ rfl⟩
  have := congrArg decodeUtf8Lossy h
  rwa [decodeUtf8Lossy_utf8, decodeUtf8Lossy_utf8, String.toList_inj] at this

namespace Medium

theorem read_folder_eq_ok_iff {path name : String} {root : Option Disk.Folder} {bytes : Bytes} :
    (folder path root).read name = .ok bytes ↔ isPlainName name = true ∧
      (utf8 name.toList).length ≤ Disk.maxNameLength ∧
      ∃ entries, root = some entries ∧ entries.find? (utf8 name.toList) = some (.file bytes) := by
  cases root with
  | none => grind [read, entry]
  | some entries => grind [read, entry]

theorem read_memory_eq_ok_iff {files : FileMap} {name : String} {bytes : Bytes} :
    (memory files).read name = .ok bytes ↔ files.find? name = some bytes := by
  grind [read]

/-! ### Writing and dropping -/

theorem read_of_write {m m' : Medium} {name : String} {bytes : Bytes}
    (h : m.write name bytes = .ok m') (n : String) (c : Bytes) :
    m'.read n = .ok c ↔ if n = name then c = bytes else m.read n = .ok c := by
  cases m with
  | memory files =>
    obtain ⟨-, rfl⟩ : isPlainName name = true ∧ memory (files.insert name bytes) = m' := by
      grind [write]
    simp only [read_memory_eq_ok_iff, FileMap.find?_insert]
    grind
  | folder path root =>
    cases root with
    | none => grind [write, entry]
    | some entries =>
      obtain ⟨plain, short, rfl⟩ : isPlainName name = true ∧
          (utf8 name.toList).length ≤ Disk.maxNameLength ∧
          folder path (some (entries.put (utf8 name.toList) (.file bytes))) = m' := by
        grind [write, entry]
      simp only [read_folder_eq_ok_iff, Option.some.injEq, exists_eq_left', Disk.Folder.find?_put,
        utf8_toList_inj]
      grind

theorem read_of_remove {m m' : Medium} {name : String} (h : m.remove name = .ok m') (n : String)
    (c : Bytes) : m'.read n = .ok c ↔ n ≠ name ∧ m.read n = .ok c := by
  cases m with
  | memory files =>
    obtain rfl : memory (files.erase name) = m' := by grind [remove]
    simp only [read_memory_eq_ok_iff, FileMap.find?_erase]
    grind
  | folder path root =>
    cases root with
    | none =>
      obtain rfl : folder path none = m' := by grind [remove, entry]
      simp [read_folder_eq_ok_iff]
    | some entries =>
      obtain rfl : folder path (some (entries.erase (utf8 name.toList))) = m' := by
        grind [remove, entry]
      simp only [read_folder_eq_ok_iff, Option.some.injEq, exists_eq_left', Disk.Folder.find?_erase,
        utf8_toList_inj]
      grind

/-! ### Listing -/

/-- What can be read is listed. -/
theorem mem_list_of_read {m : Medium} {name : String} {bytes : Bytes}
    (h : m.read name = .ok bytes) : ∃ names, m.list = .ok names ∧ name ∈ names := by
  cases m with
  | memory files =>
    have found := mem_of_lookup (read_memory_eq_ok_iff.1 h)
    exact ⟨_, rfl, List.mem_map.2 ⟨_, found, rfl⟩⟩
  | folder path root =>
    obtain ⟨-, -, entries, rfl, found⟩ := read_folder_eq_ok_iff.1 h
    refine ⟨_, rfl, ?_⟩
    simp only [fileNames, List.mem_mergeSort, List.mem_filterMap]
    exact ⟨_, mem_of_lookup found, by simp [decodeUtf8Lossy_utf8]⟩

end Medium

/-! ## Stores -/

namespace Store

/-- The store keeps a file with the given content under a name. -/
def Holds (st : Store) (name : String) (bytes : Bytes) : Prop := st.medium.read name = .ok bytes

def documents (st : Store) : List String := (st.medium.list.toOption.getD []).filter isPdfName

theorem Holds.unique {st : Store} {name : String} {a b : Bytes} (ha : st.Holds name a)
    (hb : st.Holds name b) : a = b :=
  Except.ok.inj (ha.symm.trans hb)

/-- A document that is held is among the documents. -/
theorem Holds.mem_documents {st : Store} {name : String} {bytes : Bytes} (h : st.Holds name bytes)
    (pdf : isPdfName name) : name ∈ st.documents := by
  obtain ⟨names, listed, mem⟩ := Medium.mem_list_of_read h
  simpa [documents, listed, Except.toOption] using ⟨mem, pdf⟩

/-! ### Calls -/

section

variable {α : Type} {call : StoreCall} {act : Medium → Except StoreError (α × Medium)} {st : Store}

theorem attempt_of_ok {a : α} (h : (attempt call act st).1 = .ok a) :
    act st.medium = .ok (a, (attempt call act st).2.medium) := by
  grind [attempt]

theorem medium_attempt_of_error {e : StoreError} (h : (attempt call act st).1 = .error e) :
    (attempt call act st).2.medium = st.medium := by
  grind [attempt]

end

@[simp] theorem medium_list (st : Store) : st.list.2.medium = st.medium := by
  simp only [list, attempt]
  cases st.medium.list <;> grind [Except.map]

@[simp] theorem medium_read (name : String) (st : Store) :
    (st.read name).2.medium = st.medium := by
  simp only [read, attempt]
  cases st.medium.read name <;> grind [Except.map]

theorem list_of_ok {st : Store} {names : List String} (h : st.list.1 = .ok names) :
    st.medium.list = .ok names := by
  have listed := attempt_of_ok h
  cases hm : st.medium.list <;> simp_all [Except.map]

theorem documents_of_list {st : Store} {names : List String} (h : st.list.1 = .ok names) :
    st.documents = names.filter isPdfName := by
  simp [documents, list_of_ok h, Except.toOption]

theorem documents_list (st : Store) : st.list.2.documents = st.documents := by
  simp [documents]

theorem holds_of_read {st : Store} {name : String} {bytes : Bytes}
    (h : (st.read name).1 = .ok bytes) : st.Holds name bytes := by
  have found := attempt_of_ok h
  cases hm : st.medium.read name <;> simp_all [Except.map, Holds]

theorem write_of_ok {st : Store} {name : String} {bytes : Bytes}
    (h : (st.write name bytes).1 = .ok ()) :
    st.medium.write name bytes = .ok (st.write name bytes).2.medium := by
  have written := attempt_of_ok h
  cases hm : st.medium.write name bytes <;> simp_all [Except.map, write]

theorem remove_of_ok {st : Store} {name : String} (h : (st.remove name).1 = .ok ()) :
    st.medium.remove name = .ok (st.remove name).2.medium := by
  have removed := attempt_of_ok h
  cases hm : st.medium.remove name <;> simp_all [Except.map, remove]

theorem holds_write_iff (st : Store) (name n : String) (bytes c : Bytes) :
    (st.write name bytes).2.Holds n c ↔
      if (st.write name bytes).1.isOk ∧ n = name then c = bytes else st.Holds n c := by
  cases h : (st.write name bytes).1 with
  | error e =>
    have same : (st.write name bytes).2.medium = st.medium := medium_attempt_of_error h
    simp [Holds, Except.isOk, Except.toBool, same]
  | ok _ => simp [Holds, Except.isOk, Except.toBool, Medium.read_of_write (write_of_ok h)]

theorem holds_remove_iff (st : Store) (name n : String) (c : Bytes) :
    (st.remove name).2.Holds n c ↔ ¬((st.remove name).1.isOk ∧ n = name) ∧ st.Holds n c := by
  cases h : (st.remove name).1 with
  | error e =>
    have same : (st.remove name).2.medium = st.medium := medium_attempt_of_error h
    simp [Holds, Except.isOk, Except.toBool, same]
  | ok _ => simp [Holds, Except.isOk, Except.toBool, Medium.read_of_remove (remove_of_ok h)]

/-- A file that another program puts is the only change that it makes. -/
theorem holds_of_holds_place {st : Store} {raw bytes c : Bytes} {n : String}
    (h : (st.place raw bytes).Holds n c) :
    if st.takes raw ∧ raw = utf8 n.toList then c = bytes else st.Holds n c := by
  obtain ⟨medium, faults⟩ := st
  cases medium with
  | memory files => simpa [takes, Holds, place, outside] using h
  | folder path root =>
    cases root with
    | none => simpa [takes, Holds, place, outside] using h
    | some entries =>
      simp only [Holds, place, outside, Option.map_some, Medium.read_folder_eq_ok_iff, takes] at h ⊢
      grind [Disk.Folder.find?_put]

theorem place_of_not_takes {st : Store} {raw : Bytes} (bytes : Bytes) (h : st.takes raw = false) :
    st.place raw bytes = st := by
  obtain ⟨medium, faults⟩ := st
  cases medium with
  | memory files => rfl
  | folder path root =>
    cases root with
    | none => rfl
    | some entries =>
      simp only [takes, place, outside, Option.map_some] at h ⊢
      grind

end Store

end ScriptPress
