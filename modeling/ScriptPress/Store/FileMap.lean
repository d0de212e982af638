import ScriptPress.Text.Utf8

/-!
# File maps

Files by name, in the order of their names. A name occurs once.

## Main definitions

* `FileMap` — files in the order of their names.
* `FileMap.find?`, `FileMap.insert`, `FileMap.erase` — look-up and change.
-/

namespace ScriptPress

/-! ## The order of names -/

/-- Names are ordered by code points, which is also the order of their bytes in UTF-8. -/
theorem lt_of_ne_of_not_lt {a b : String} (hne : a ≠ b) (h : ¬a < b) : b < a :=
  String.not_le.1 fun hle => hne (String.le_antisymm hle (String.not_lt.1 h))

/-- Files by name, in the order of their names. -/
structure FileMap where
  entries : List (String × Bytes)
  ordered : entries.Pairwise (fun a b => a.1 < b.1) := by simp

namespace FileMap

def empty : FileMap where
  entries := []

def names (m : FileMap) : List String := m.entries.map (·.1)

def find? (m : FileMap) (name : String) : Option Bytes := m.entries.lookup name

/-! ## Insertion -/

def insertEntry (name : String) (bytes : Bytes) : List (String × Bytes) → List (String × Bytes)
  | [] => [(name, bytes)]
  | e :: es =>
    if name < e.1 then (name, bytes) :: e :: es
    else if name = e.1 then (name, bytes) :: es
    else e :: insertEntry name bytes es

theorem mem_insertEntry {name : String} {bytes : Bytes} {es : List (String × Bytes)}
    {e : String × Bytes} (h : e ∈ insertEntry name bytes es) : e = (name, bytes) ∨ e ∈ es := by
  induction es with
  | nil => simp_all [insertEntry]
  | cons d es ih =>
    rw [insertEntry] at h
    split at h
    · simp_all
    · split at h
      · simp at h ⊢
        exact h.imp_right Or.inr
      · rcases List.mem_cons.1 h with rfl | h
        · simp
        · exact (ih h).imp_right (List.mem_cons_of_mem _)

theorem ordered_insertEntry (name : String) (bytes : Bytes) {es : List (String × Bytes)}
    (h : es.Pairwise (fun a b => a.1 < b.1)) :
    (insertEntry name bytes es).Pairwise (fun a b => a.1 < b.1) := by
  induction es with
  | nil => simp [insertEntry]
  | cons e es ih =>
    obtain ⟨he, hes⟩ := List.pairwise_cons.1 h
    rw [insertEntry]
    split
    · rename_i hlt
      refine List.pairwise_cons.2 ⟨fun d hd => ?_, h⟩
      rcases List.mem_cons.1 hd with rfl | hd
      · exact hlt
      · exact String.lt_trans hlt (he d hd)
    · split
      · rename_i heq
        exact List.pairwise_cons.2 ⟨fun d hd => heq ▸ he d hd, hes⟩
      · rename_i hlt hne
        refine List.pairwise_cons.2 ⟨fun d hd => ?_, ih hes⟩
        rcases mem_insertEntry hd with rfl | hd
        · exact lt_of_ne_of_not_lt hne hlt
        · exact he d hd

def insert (m : FileMap) (name : String) (bytes : Bytes) : FileMap where
  entries := insertEntry name bytes m.entries
  ordered := ordered_insertEntry name bytes m.ordered

def erase (m : FileMap) (name : String) : FileMap where
  entries := m.entries.filter (·.1 ≠ name)
  ordered := m.ordered.filter _

/-! ## Look-up -/

@[simp] theorem find?_empty (name : String) : empty.find? name = none := rfl

theorem lookup_insertEntry (name n : String) (bytes : Bytes) (es : List (String × Bytes)) :
    (insertEntry name bytes es).lookup n = if n = name then some bytes else es.lookup n := by
  induction es with
  | nil => grind [insertEntry]
  | cons e es ih => grind [insertEntry]

theorem find?_insert (m : FileMap) (name n : String) (bytes : Bytes) :
    (m.insert name bytes).find? n = if n = name then some bytes else m.find? n :=
  lookup_insertEntry name n bytes m.entries

theorem lookup_filter_ne (name n : String) (es : List (String × Bytes)) :
    (es.filter (·.1 ≠ name)).lookup n = if n = name then none else es.lookup n := by
  induction es with
  | nil => simp
  | cons e es ih => grind

theorem find?_erase (m : FileMap) (name n : String) :
    (m.erase name).find? n = if n = name then none else m.find? n :=
  lookup_filter_ne name n m.entries

end FileMap

end ScriptPress
