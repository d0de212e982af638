import Mathlib.Data.List.Sort
import ScriptPress.Proofs.Work

/-!
# Stores in memory

A store in memory is no more than its files: what is found under each name says all of it. Its
calls fail only for what they are asked, and dropping its documents leaves all other files.

## Main definitions

* `FileMap.eraseAll`, `FileMap.withoutPdfs` — files without those of some names.
* `FileMap.AgreeButPdfs` — the same files but for documents.
* `Store.ofFiles` — a store in memory none of whose calls is refused.
* `Entry.Alters` — what an entry changes.

## Main statements

* `FileMap.ext_find?` — files are equal if the same is found under each name.
* `FileMap.AgreeButPdfs.withoutPdfs_eq` — nothing tells them apart once their documents are dropped.
* `Conversion.removePdfs_ofFiles` — dropping the documents of a store in memory.
* `Store.Undergoes.find?_eq` — what no entry alters is found in the end as in the beginning.
-/

namespace ScriptPress

open Text

/-! ## Files -/

namespace FileMap

/-- A name occurs once. -/
theorem nodup_names (m : FileMap) : m.names.Nodup :=
  List.pairwise_map.2 (m.ordered.imp fun {a b} (lt : a.1 < b.1) (same : a.1 = b.1) =>
    String.lt_irrefl b.1 (same ▸ lt))

theorem mem_entries_iff {m : FileMap} {e : String × Bytes} :
    e ∈ m.entries ↔ m.find? e.1 = some e.2 :=
  ⟨lookup_of_mem_of_nodup m.nodup_names, mem_of_lookup⟩

theorem mem_names_iff {m : FileMap} {name : String} :
    name ∈ m.names ↔ (m.find? name).isSome := by
  simp only [names, List.mem_map, Option.isSome_iff_exists]
  constructor
  · rintro ⟨e, mem, rfl⟩
    exact ⟨e.2, mem_entries_iff.1 mem⟩
  · rintro ⟨bytes, found⟩
    exact ⟨(name, bytes), mem_entries_iff.2 found, rfl⟩

/-- Files are equal if the same is found under each name. -/
theorem ext_find? {m m' : FileMap} (h : ∀ name, m.find? name = m'.find? name) : m = m' := by
  have : Std.Antisymm fun a b : String × Bytes => a.1 < b.1 :=
    ⟨fun _ _ lt gt => absurd gt (String.lt_asymm lt)⟩
  have : Std.Irrefl fun a b : String × Bytes => a.1 < b.1 := ⟨fun _ => String.lt_irrefl _⟩
  have same : m.entries = m'.entries :=
    m.ordered.eq_of_mem_iff m'.ordered fun e => by rw [mem_entries_iff, mem_entries_iff, h]
  obtain ⟨entries, ordered⟩ := m
  obtain rfl : entries = m'.entries := same
  rfl

def eraseAll (m : FileMap) (names : List String) : FileMap := names.foldl erase m

theorem find?_eraseAll (m : FileMap) (names : List String) (n : String) :
    (m.eraseAll names).find? n = if n ∈ names then none else m.find? n := by
  induction names generalizing m with
  | nil => simp [eraseAll]
  | cons name names ih =>
    have rest := ih (m.erase name)
    rw [eraseAll, List.foldl_cons, ← eraseAll, rest, find?_erase]
    by_cases same : n = name <;> simp [same]

def pdfNames (m : FileMap) : List String := m.names.filter Store.isPdfName

def withoutPdfs (m : FileMap) : FileMap := m.eraseAll m.pdfNames

theorem find?_withoutPdfs (m : FileMap) (n : String) :
    m.withoutPdfs.find? n = if Store.isPdfName n then none else m.find? n := by
  simp only [withoutPdfs, find?_eraseAll, pdfNames, List.mem_filter, mem_names_iff]
  cases m.find? n <;> simp

/-- The same is found under every name but those of documents. -/
def AgreeButPdfs (m m' : FileMap) : Prop :=
  ∀ name, Store.isPdfName name = false → m.find? name = m'.find? name

theorem AgreeButPdfs.withoutPdfs_eq {m m' : FileMap} (h : m.AgreeButPdfs m') :
    m.withoutPdfs = m'.withoutPdfs := by
  refine ext_find? fun name => ?_
  rw [find?_withoutPdfs, find?_withoutPdfs]
  cases pdf : Store.isPdfName name with
  | true => rfl
  | false => exact h name pdf

end FileMap

/-! ## Calls -/

theorem FaultPlan.none_after (call : StoreCall) : none.after call = none := by
  funext c n
  simp [after, none]

namespace Store

/-- Nothing is refused where nothing is planned to be. -/
theorem attempt_none {α : Type} (call : StoreCall) (act : Medium → Except StoreError (α × Medium))
    (m : Medium) :
    attempt call act ⟨m, .none⟩ =
      match act m with
      | .ok (a, medium) => (.ok a, ⟨medium, .none⟩)
      | .error e => (.error e, ⟨m, .none⟩) := by
  have unplanned : FaultPlan.none call 0 = false := rfl
  simp only [attempt, FaultPlan.none_after, unplanned]
  rfl

/-- The store in memory that keeps the given files; none of its calls is refused. -/
def ofFiles (files : FileMap) : Store := ⟨.memory files, .none⟩

variable (files : FileMap)

theorem attempt_ofFiles {α : Type} (call : StoreCall)
    (act : Medium → Except StoreError (α × Medium)) :
    attempt call act (ofFiles files) =
      match act (.memory files) with
      | .ok (a, medium) => (.ok a, ⟨medium, .none⟩)
      | .error e => (.error e, ofFiles files) :=
  attempt_none call act (.memory files)

theorem list_ofFiles : (ofFiles files).list = (.ok files.names, ofFiles files) :=
  attempt_ofFiles files _ _

theorem remove_ofFiles (name : String) :
    (ofFiles files).remove name = (.ok (), ofFiles (files.erase name)) :=
  attempt_ofFiles files _ _

theorem read_ofFiles (name : String) : ((ofFiles files).read name).2 = ofFiles files := by
  rw [read, attempt_ofFiles]
  cases h : files.find? name <;> simp [Medium.read, h, Except.map, ofFiles]

theorem write_ofFiles (name : String) (bytes : Bytes) :
    (ofFiles files).write name bytes =
      if isPlainName name then (.ok (), ofFiles (files.insert name bytes))
      else (.error (.notPlainName name), ofFiles files) := by
  rw [write, attempt_ofFiles]
  cases h : isPlainName name <;> simp [Medium.write, h, Except.map, ofFiles]

end Store

/-! ## Dropping the documents -/

namespace Conversion

variable {σ : Type}

def removing (names : List String) : List Entry :=
  names.map fun name => .accessed .request (.remove name) true

theorem removals_removing (names : List String) : Removals names (removing names) := by
  induction names with
  | nil => exact .nil
  | cons name names ih => exact .cons true ih

theorem removeEachBy_ofFiles (names : List String) (files : FileMap) (patches : Page.PatchSet)
    (clock : Nat) (state : σ) (journal : List Entry) :
    Store.removeEachBy remove names ⟨⟨.ofFiles files, patches⟩, clock, state, journal⟩ =
      (names.length, ⟨⟨.ofFiles (files.eraseAll names), patches⟩, clock, state,
        journal ++ removing names⟩) := by
  induction names generalizing files journal with
  | nil =>
    rw [removing, List.map_nil, List.append_nil]
    rfl
  | cons name names ih =>
    have dropped : remove name ⟨⟨.ofFiles files, patches⟩, clock, state, journal⟩ =
        (.ok (), ⟨⟨.ofFiles (files.erase name), patches⟩, clock, state,
          journal ++ [.accessed .request (.remove name) true]⟩) := by
      simp only [remove, modifyGet, MonadStateOf.modifyGet, StateT.modifyGet, Session.access,
        Store.remove_ofFiles]
      rfl
    have rest := ih (files.erase name) (journal ++ [.accessed .request (.remove name) true])
    simp only [Store.removeEachBy, Bind.bind, StateT.bind, dropped, rest]
    rw [List.append_assoc]
    rfl

/-- Dropping the documents of a store in memory: all of them go, and nothing else. -/
theorem removePdfs_ofFiles (files : FileMap) (patches : Page.PatchSet) (clock : Nat) (state : σ)
    (journal : List Entry) :
    removePdfs ⟨⟨.ofFiles files, patches⟩, clock, state, journal⟩ =
      (.ok files.pdfNames.length,
        ⟨⟨.ofFiles files.withoutPdfs, patches⟩, clock, state,
          journal ++ .accessed .request .list true :: removing files.pdfNames⟩) := by
  have listed : Store.pdfsBy list ⟨⟨.ofFiles files, patches⟩, clock, state, journal⟩ =
      (.ok files.pdfNames, ⟨⟨.ofFiles files, patches⟩, clock, state,
        journal ++ [.accessed .request .list true]⟩) := by
    simp only [Store.pdfsBy, list, Bind.bind, StateT.bind, modifyGet, MonadStateOf.modifyGet,
      StateT.modifyGet, Session.access, Store.list_ofFiles]
    rfl
  have dropped := removeEachBy_ofFiles files.pdfNames files patches clock state
    (journal ++ [.accessed .request .list true])
  simp only [removePdfs, Store.removePdfsBy, Bind.bind, StateT.bind, listed, dropped]
  rw [List.append_assoc]
  rfl

end Conversion

/-! ## What entries alter -/

/-- The entry changes what is kept under a name. -/
def Entry.Alters (name : String) : Entry → Prop
  | accessed _ (.write n _) true => n = name
  | accessed _ (.remove n) true => n = name
  | placed raw _ => raw = utf8 name.toList
  | _ => False

theorem Entry.effect_ofFiles {e : Entry} {files : FileMap} (fits : e.Fits (.ofFiles files)) :
    ∃ files', e.effect (.ofFiles files) = .ofFiles files' ∧
      ∀ name, ¬e.Alters name → files'.find? name = files.find? name := by
  cases e with
  | accessed actor a ok =>
    cases a with
    | list => exact ⟨files, congrArg Prod.snd (Store.list_ofFiles files), fun _ _ => rfl⟩
    | read n => exact ⟨files, Store.read_ofFiles files n, fun _ _ => rfl⟩
    | write n bytes =>
      have written := Store.write_ofFiles files n bytes
      simp only [Fits, Access.perform, written] at fits
      simp only [effect, Access.perform, written]
      split_ifs at fits ⊢ with plain
      · obtain rfl : true = ok := fits
        refine ⟨files.insert n bytes, rfl, fun name unaltered => ?_⟩
        rw [FileMap.find?_insert, if_neg (Ne.symm unaltered)]
      · exact ⟨files, rfl, fun _ _ => rfl⟩
    | remove n =>
      have removed := Store.remove_ofFiles files n
      simp only [Fits, Access.perform, removed] at fits
      obtain rfl : true = ok := fits
      refine ⟨files.erase n, by simp only [effect, Access.perform, removed], fun name unaltered => ?_⟩
      rw [FileMap.find?_erase, if_neg (Ne.symm unaltered)]
  | placed raw bytes => exact absurd fits (by simp [Fits, Store.takes, Store.ofFiles])
  | _ => exact ⟨files, rfl, fun _ _ => rfl⟩

/-- A store in memory stays one, and what no entry alters is found in the end as in the
beginning. -/
theorem Store.Undergoes.find?_eq {files : FileMap} {es : List Entry} {st' : Store}
    (h : (Store.ofFiles files).Undergoes es st') :
    ∃ files', st' = .ofFiles files' ∧
      ∀ name, (∀ e ∈ es, ¬e.Alters name) → files'.find? name = files.find? name := by
  generalize start : Store.ofFiles files = st at h
  induction h generalizing files with
  | nil => exact ⟨files, start.symm, fun _ _ => rfl⟩
  | @cons _ _ e es fits rest ih =>
    subst start
    obtain ⟨files₁, step, first⟩ := Entry.effect_ofFiles fits
    obtain ⟨files', rfl, later⟩ := ih step.symm
    refine ⟨files', rfl, fun name unaltered => ?_⟩
    obtain ⟨here, there⟩ := List.forall_mem_cons.1 unaltered
    exact (later name there).trans (first name here)

end ScriptPress
