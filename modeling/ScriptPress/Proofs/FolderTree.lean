import Mathlib.Tactic.ByContra
import ScriptPress.Proofs.StoreContent

/-!
# Entries of a tree

What stands at the end of each trail of names in a tree of folders, apart from what a folder has in
it, and what a file operation changes in that: one entry, or nothing.

## Main definitions

* `Kind`, `Folder.kind?` — what stands at the end of a trail.
* `Folder.place?` — the trail to the entry that a path names, whether it is there or not.
* `Grows` — only folders on the way of some paths are new.

## Main statements

* `Folder.place?_mono` — new folders lead no path astray.
* `Folder.kind?_of_makeFolder`, `Folder.kind?_of_writeFile`, `Folder.kind?_of_renameFile` — what an
  operation changes.
* `Folder.readFile_eq_ok_iff` — what is read is what stands there.
-/

namespace ScriptPress.Disk

open Text

/-! ## What stands at the end of a trail -/

/-- What an entry is, apart from what a folder has in it. -/
inductive Kind where
  | folder
  | file (bytes : Bytes)
  deriving DecidableEq, Repr

namespace Node

def kind : Node → Kind
  | .file bytes => .file bytes
  | .folder _ => .folder

def kind? : Node → List Bytes → Option Kind
  | .file bytes, [] => some (.file bytes)
  | .file _, _ :: _ => none
  | .folder f, trail => (Folder.get? f trail).map kind

/-- There is nothing behind the entry. -/
def IsBare (node : Node) : Prop := ∀ name trail, node.kind? (name :: trail) = none

theorem isBare_file (bytes : Bytes) : (file bytes).IsBare := fun _ _ => rfl

theorem isBare_folder : (folder []).IsBare := by
  intro name trail
  cases trail <;> rfl

end Node

namespace Folder

def kind? (f : Folder) (trail : List Bytes) : Option Kind := (Node.folder f).kind? trail

theorem kind?_cons (f : Folder) (name : Bytes) (trail : List Bytes) :
    f.kind? (name :: trail) = (f.find? name).bind (·.kind? trail) := by
  rw [kind?, Node.kind?, get?.eq_def]
  dsimp only
  cases f.find? name with
  | none => cases trail <;> rfl
  | some node => cases node <;> cases trail <;> rfl

theorem kind?_put (f : Folder) (name n : Bytes) (node : Node) (trail : List Bytes) :
    (f.put name node).kind? (n :: trail) =
      if n = name then node.kind? trail else f.kind? (n :: trail) := by
  rw [kind?_cons, find?_put, kind?_cons]
  split_ifs <;> rfl

theorem kind?_erase (f : Folder) (name n : Bytes) (trail : List Bytes) :
    (f.erase name).kind? (n :: trail) = if n = name then none else f.kind? (n :: trail) := by
  rw [kind?_cons, find?_erase, kind?_cons]
  split_ifs <;> rfl

/-- What has something behind it is a folder. -/
theorem kind?_of_append {f : Folder} {trail rest : List Bytes} (h : f.kind? (trail ++ rest) ≠ none)
    (more : rest ≠ []) : f.kind? trail = some .folder := by
  induction trail generalizing f with
  | nil => rfl
  | cons name trail ih =>
    rw [List.cons_append, kind?_cons] at h
    rw [kind?_cons]
    cases found : f.find? name with
    | none => simp [found] at h
    | some node =>
      rw [found, Option.bind_some] at h
      cases node with
      | folder g => exact ih h
      | file bytes =>
        obtain ⟨n, behind, there⟩ :=
          List.exists_cons_of_ne_nil (List.append_ne_nil_of_right_ne_nil trail more)
        exact absurd (by rw [there]; rfl) h

theorem kind?_behind {f : Folder} {name : Bytes} (free : f.kind? [name] ≠ some .folder)
    (n : Bytes) (trail : List Bytes) : f.kind? (name :: n :: trail) = none := by
  by_contra there
  exact free (kind?_of_append there (List.cons_ne_nil n trail))

theorem kind?_dropLast {f : Folder} {trail : List Bytes} (h : f.kind? trail = some .folder) :
    f.kind? trail.dropLast = some .folder := by
  rcases List.eq_nil_or_concat trail with rfl | ⟨front, name, rfl⟩
  · rfl
  · rw [List.concat_eq_append] at h ⊢
    rw [List.dropLast_concat]
    exact kind?_of_append (by simp [h]) (List.cons_ne_nil name [])

theorem kind?_eq_map (f : Folder) (trail : List Bytes) :
    f.kind? trail = (f.get? trail).map Node.kind := rfl

theorem exists_get?_folder_iff {f : Folder} {trail : List Bytes} :
    (∃ g, f.get? trail = some (.folder g)) ↔ f.kind? trail = some .folder := by
  rw [kind?_eq_map]
  cases f.get? trail with
  | none => simp
  | some node => cases node <;> simp [Node.kind]

/-! ## Changing one entry -/

/-- A change of a folder that makes something else of one entry, which is not a folder with
something in it. -/
def Sets (change : Folder → Folder) (name : Bytes) (kind : Option Kind) : Prop :=
  ∀ f : Folder, f.kind? [name] ≠ some .folder →
    ∀ trail, (change f).kind? trail = if trail = [name] then kind else f.kind? trail

theorem sets_put (name : Bytes) {node : Node} (bare : node.IsBare) :
    Sets (·.put name node) name (node.kind? []) := by
  intro f free trail
  cases trail with
  | nil => rfl
  | cons n trail =>
    rw [kind?_put]
    split_ifs with here alone alone
    · rw [(List.cons.inj alone).2]
    · subst here
      cases trail with
      | nil => exact absurd rfl alone
      | cons n' trail => rw [bare, kind?_behind free]
    · cases alone
      exact absurd rfl here
    · rfl

theorem sets_erase (name : Bytes) : Sets (·.erase name) name none := by
  intro f free trail
  cases trail with
  | nil => rfl
  | cons n trail =>
    rw [kind?_erase]
    split_ifs with here alone alone
    · rfl
    · subst here
      cases trail with
      | nil => exact absurd rfl alone
      | cons n' trail => rw [kind?_behind free]
    · cases alone
      exact absurd rfl here
    · rfl

/-- A change in the folder at the end of a trail is one below the trail. -/
theorem kind?_changed {change : Folder → Folder} {name : Bytes} {kind : Option Kind}
    (sets : Sets change name kind) {f : Folder} {trail : List Bytes}
    (here : f.kind? trail = some .folder) (free : f.kind? (trail ++ [name]) ≠ some .folder)
    (t : List Bytes) :
    (f.changed change trail).kind? t = if t = trail ++ [name] then kind else f.kind? t := by
  have modified : ∃ f', f.modify? change trail = some f' ∧
      ∀ t, f'.kind? t = if t = trail ++ [name] then kind else f.kind? t := by
    induction trail generalizing f with
    | nil => exact ⟨change f, rfl, fun t => sets f free t⟩
    | cons n trail ih =>
      rw [kind?_cons] at here
      rw [List.cons_append, kind?_cons] at free
      rw [modify?]
      cases found : f.find? n with
      | none => simp [found] at here
      | some node =>
        cases node with
        | file bytes => cases trail <;> simp [found, Node.kind?] at here
        | folder g =>
          rw [found] at here free
          obtain ⟨g', below, kinds⟩ := ih here free
          refine ⟨f.put n (.folder g'), by simp only [below, Option.map_some], fun t => ?_⟩
          cases t with
          | nil => rfl
          | cons n' t =>
            rw [kind?_put]
            by_cases same : n' = n
            · subst same
              rw [if_pos rfl, kind?_cons, found]
              simpa [kind?] using kinds t
            · have other : n' :: t ≠ n :: trail ++ [name] := fun whole =>
                same (List.cons.inj whole).1
              rw [if_neg same, if_neg other]
  obtain ⟨f', done, kinds⟩ := modified
  rw [changed, done]
  exact kinds t

/-! ## Where paths lead -/

theorem kind?_of_enter {root : Folder} {before trail : List Bytes} {parts : List Segment}
    (h : root.enter before parts = .ok trail) (here : root.kind? before = some .folder) :
    root.kind? trail = some .folder := by
  fun_induction enter root before parts with
  | case1 => cases h; exact here
  | case2 _ _ ih => exact ih h here
  | case3 _ _ ih => exact ih h (kind?_dropLast here)
  | case4 => cases h
  | case5 trail rest s next fits g found ih => exact ih h (exists_get?_folder_iff.1 ⟨g, found⟩)
  | case6 => cases h
  | case7 => cases h

/-- The names on the way are found in every tree that has the folders. -/
theorem enter_mono {root root' : Folder}
    (folders : ∀ t, root.kind? t = some .folder → root'.kind? t = some .folder)
    {before trail : List Bytes} {parts : List Segment}
    (h : root.enter before parts = .ok trail) : root'.enter before parts = .ok trail := by
  fun_induction enter root before parts with
  | case1 => simpa [enter] using h
  | case2 _ _ ih => simpa [enter] using ih h
  | case3 _ _ ih => simpa [enter] using ih h
  | case4 => cases h
  | case5 trail rest s next fits g found ih =>
    obtain ⟨g', there⟩ := exists_get?_folder_iff.2 (folders _ (exists_get?_folder_iff.1 ⟨g, found⟩))
    simpa [enter, fits, next, there] using ih h
  | case6 => cases h
  | case7 => cases h

theorem locate_eq_ok_iff {root : Folder} {path : List Char} {trail : List Bytes}
    {last : Segment} : root.locate path = .ok (trail, last) ↔ path.contains '\x00' = false ∧
      (segments path = [] ∧ isAbsolute path = true ∧ trail = [] ∧ last = .here ∨
        (segments path).getLast? = some last ∧
          root.enter [] (segments path).dropLast = .ok trail) := by
  unfold locate
  cases path.contains '\x00' with
  | true => simp
  | false =>
    rw [if_neg Bool.false_ne_true]
    cases ends : (segments path).getLast? with
    | none =>
      have nothing := List.getLast?_eq_none_iff.1 ends
      cases isAbsolute path <;> simp [nothing, eq_comm]
    | some s =>
      have something : segments path ≠ [] := fun none => by simp [none] at ends
      cases root.enter [] (segments path).dropLast with
      | error e => simp [something, Bind.bind, Except.bind]
      | ok t => simp [something, Bind.bind, Except.bind, Pure.pure, Except.pure, and_comm]

theorem kind?_of_locate {root : Folder} {path : List Char} {trail : List Bytes} {last : Segment}
    (h : root.locate path = .ok (trail, last)) : root.kind? trail = some .folder := by
  obtain ⟨-, ⟨-, -, rfl, -⟩ | ⟨-, entered⟩⟩ := locate_eq_ok_iff.1 h
  · rfl
  · exact kind?_of_enter entered rfl

theorem locate_mono {root root' : Folder}
    (folders : ∀ t, root.kind? t = some .folder → root'.kind? t = some .folder)
    {path : List Char} {trail : List Bytes} {last : Segment}
    (h : root.locate path = .ok (trail, last)) : root'.locate path = .ok (trail, last) := by
  obtain ⟨nul, whole | ⟨ends, entered⟩⟩ := locate_eq_ok_iff.1 h
  · exact locate_eq_ok_iff.2 ⟨nul, .inl whole⟩
  · exact locate_eq_ok_iff.2 ⟨nul, .inr ⟨ends, enter_mono folders entered⟩⟩

/-- The trail to the entry that a path names, whether it is there or not. -/
def place? (root : Folder) (path : List Char) : Option (List Bytes) :=
  match root.locate path with
  | .ok (trail, .name s) =>
    if maxNameLength < (utf8 s).length then none else some (trail ++ [utf8 s])
  | _ => none

theorem place?_eq_some_iff {root : Folder} {path : List Char} {place : List Bytes} :
    root.place? path = some place ↔ ∃ trail s, root.locate path = .ok (trail, .name s) ∧
      (utf8 s).length ≤ maxNameLength ∧ trail ++ [utf8 s] = place := by
  unfold place?
  split
  · next trail s located =>
    split_ifs with long
    · simp [located, Nat.not_le.2 long]
    · simp only [located, Except.ok.injEq, Prod.mk.injEq, Segment.name.injEq, Option.some.injEq]
      constructor
      · exact fun same => ⟨trail, s, ⟨rfl, rfl⟩, Nat.not_lt.1 long, same⟩
      · rintro ⟨_, _, ⟨rfl, rfl⟩, -, same⟩
        exact same
  · next other =>
    constructor
    · simp
    · rintro ⟨trail, s, located, -⟩
      exact absurd located (other _ _)

/-- New folders lead no path astray. -/
theorem place?_mono {root root' : Folder}
    (folders : ∀ t, root.kind? t = some .folder → root'.kind? t = some .folder)
    {path : List Char} {place : List Bytes} (h : root.place? path = some place) :
    root'.place? path = some place := by
  obtain ⟨trail, s, located, rest⟩ := place?_eq_some_iff.1 h
  exact place?_eq_some_iff.2 ⟨trail, s, locate_mono folders located, rest⟩

/-! ## What the operations change -/

theorem readFile_eq_ok_iff {root : Folder} {path : List Char} {bytes : Bytes} :
    root.readFile path = .ok bytes ↔ wantsFolder path = false ∧
      ∃ place, root.place? path = some place ∧ root.kind? place = some (.file bytes) := by
  unfold readFile node? place?
  cases root.locate path with
  | error e => simp [Bind.bind, Except.bind]
  | ok found =>
    obtain ⟨trail, last⟩ := found
    cases last with
    | here => simp [Bind.bind, Except.bind, Pure.pure, Except.pure]
    | up => simp [Bind.bind, Except.bind, Pure.pure, Except.pure]
    | name s =>
      by_cases long : maxNameLength < (utf8 s).length
      · simp [long, Bind.bind, Except.bind, throw, throwThe, MonadExceptOf.throw]
      · have kinds := kind?_eq_map root (trail ++ [utf8 s])
        cases there : root.get? (trail ++ [utf8 s]) with
        | none =>
          simp [long, kinds, there, Bind.bind, Except.bind, throw, throwThe, MonadExceptOf.throw]
        | some node =>
          cases node <;> cases wantsFolder path <;>
            simp [long, kinds, there, Node.kind, Bind.bind, Except.bind, Pure.pure, Except.pure,
              throw, throwThe, MonadExceptOf.throw]

theorem kind?_of_writeFile {root root' : Folder} {path : List Char} {bytes : Bytes}
    (h : root.writeFile path bytes = .ok root') : wantsFolder path = false ∧
      ∃ place, root.place? path = some place ∧ root.kind? place ≠ some .folder ∧
        ∀ t, root'.kind? t = if t = place then some (.file bytes) else root.kind? t := by
  unfold writeFile at h
  cases located : root.locate path with
  | error e => simp [located, Bind.bind, Except.bind] at h
  | ok found =>
    obtain ⟨trail, last⟩ := found
    cases last with
    | here => simp [located, Bind.bind, Except.bind, throw, throwThe, MonadExceptOf.throw] at h
    | up => simp [located, Bind.bind, Except.bind, throw, throwThe, MonadExceptOf.throw] at h
    | name s =>
      simp only [located, Bind.bind, Except.bind] at h
      split_ifs at h with long wants
      have place := place?_eq_some_iff.2 ⟨trail, s, located, Nat.not_lt.1 long, rfl⟩
      split at h
      · cases h
      · next other =>
        have free : root.kind? (trail ++ [utf8 s]) ≠ some .folder := fun there =>
          (exists_get?_folder_iff.2 there).elim other
        cases h
        refine ⟨Bool.eq_false_iff.2 wants, _, place, free, ?_⟩
        exact kind?_changed (sets_put _ (Node.isBare_file bytes)) (kind?_of_locate located) free

theorem kind?_of_makeFolder {root root' : Folder} {path : List Char}
    (h : root.makeFolder path = .ok root') :
    ∃ place, root.place? path = some place ∧ root.kind? place = none ∧
      ∀ t, root'.kind? t = if t = place then some .folder else root.kind? t := by
  unfold makeFolder at h
  cases located : root.locate path with
  | error e => simp [located, Bind.bind, Except.bind] at h
  | ok found =>
    obtain ⟨trail, last⟩ := found
    cases last with
    | here => simp [located, Bind.bind, Except.bind, throw, throwThe, MonadExceptOf.throw] at h
    | up => simp [located, Bind.bind, Except.bind, throw, throwThe, MonadExceptOf.throw] at h
    | name s =>
      simp only [located, Bind.bind, Except.bind] at h
      split_ifs at h with long
      have place := place?_eq_some_iff.2 ⟨trail, s, located, Nat.not_lt.1 long, rfl⟩
      split at h
      · cases h
      · next absent =>
        have free : root.kind? (trail ++ [utf8 s]) = none := by rw [kind?_eq_map, absent]; rfl
        cases h
        refine ⟨_, place, free, ?_⟩
        exact kind?_changed (sets_put _ Node.isBare_folder) (kind?_of_locate located)
          (by simp [free])

theorem kind?_of_renameFile {root root' : Folder} {source target : List Char}
    (h : root.renameFile source target = .ok root') : wantsFolder target = false ∧
      ∃ bytes origin place, root.readFile source = .ok bytes ∧ root.place? source = some origin ∧
        root.place? target = some place ∧ root.kind? place ≠ some .folder ∧
        ∀ t, root'.kind? t =
          if t = place then some (.file bytes) else if t = origin then none else root.kind? t := by
  unfold renameFile at h
  cases read : root.readFile source with
  | error e => simp [read, Bind.bind, Except.bind] at h
  | ok bytes =>
    obtain ⟨-, origin, named, held⟩ := readFile_eq_ok_iff.1 read
    obtain ⟨trail, s, located, -, rfl⟩ := place?_eq_some_iff.1 named
    simp only [read, located, Bind.bind, Except.bind] at h
    split at h
    · cases h
    · split at h
      · next trail₁ s₁ trail' s' same located' =>
        cases same
        split_ifs at h with long wants
        have place := place?_eq_some_iff.2 ⟨trail', s', located', Nat.not_lt.1 long, rfl⟩
        split at h
        · cases h
        · next other =>
          have free : root.kind? (trail' ++ [utf8 s']) ≠ some .folder := fun there =>
            (exists_get?_folder_iff.2 there).elim other
          have erased := kind?_changed (sets_erase (utf8 s)) (kind?_of_locate located)
            (by simp [held])
          cases h
          refine ⟨Bool.eq_false_iff.2 wants, bytes, _, _, rfl, named, place, free, fun t => ?_⟩
          -- The file that is moved is not the folder it is moved into.
          have into : trail' ≠ trail ++ [utf8 s] := fun same => by
            simpa [same, held] using kind?_of_locate located'
          have put := kind?_changed (sets_put (utf8 s') (Node.isBare_file bytes))
            ((erased trail').trans ((if_neg into).trans (kind?_of_locate located')))
            (by rw [erased]; split_ifs <;> simp [free]) t
          rw [put, erased]
          rfl
      · cases h

end Folder

/-! ## Trees that grow -/

/-- Outside of some places every entry is as before, but for new folders, each at the place of one
of the paths. -/
def Grows (ways : List Char → Prop) (places : List (List Bytes)) (before after : Folder) : Prop :=
  ∀ trail, trail ∉ places → after.kind? trail = before.kind? trail ∨
    before.kind? trail = none ∧ after.kind? trail = some .folder ∧
      ∃ path, ways path ∧ after.place? path = some trail

namespace Grows

variable {ways ways' : List Char → Prop} {places : List (List Bytes)}
  {before between after : Folder}

theorem refl (ways : List Char → Prop) (places : List (List Bytes)) (root : Folder) :
    Grows ways places root root := fun _ _ => .inl rfl

theorem mono (h : Grows ways places before after) (more : ∀ path, ways path → ways' path) :
    Grows ways' places before after := by
  intro trail other
  refine (h trail other).imp_right fun ⟨absent, new, path, way, here⟩ => ?_
  exact ⟨absent, new, path, more path way, here⟩

theorem folders (h : Grows ways [] before after) {trail : List Bytes}
    (here : before.kind? trail = some .folder) : after.kind? trail = some .folder := by
  rcases h trail List.not_mem_nil with same | ⟨-, new, -⟩
  · exact same.trans here
  · exact new

/-- Files stay where they are. -/
theorem file_iff (h : Grows ways [] before after) {trail : List Bytes} {bytes : Bytes} :
    after.kind? trail = some (.file bytes) ↔ before.kind? trail = some (.file bytes) := by
  rcases h trail List.not_mem_nil with same | ⟨absent, new, -⟩
  · rw [same]
  · simp [absent, new]

theorem trans (h : Grows ways [] before between) (h' : Grows ways [] between after) :
    Grows ways [] before after := by
  intro trail other
  rcases h trail other with same | ⟨absent, new, path, way, here⟩
  · rw [← same]
    exact h' trail other
  · exact .inr ⟨absent, h'.folders new, path, way, Folder.place?_mono (fun _ => h'.folders) here⟩

/-- More places may be changed as long as every folder stays. -/
theorem change {places' : List (List Bytes)} (h : Grows ways places before between)
    (more : places ⊆ places') (same : ∀ t, t ∉ places' → after.kind? t = between.kind? t)
    (kept : ∀ t, between.kind? t = some .folder → after.kind? t = some .folder) :
    Grows ways places' before after := by
  intro trail other
  rw [same trail other]
  refine (h trail fun mem => other (more mem)).imp_right fun ⟨absent, new, path, way, here⟩ => ?_
  exact ⟨absent, new, path, way, Folder.place?_mono kept here⟩

end Grows

theorem grows_of_makeFolder {root root' : Folder} {path : List Char}
    (h : root.makeFolder path = .ok root') : Grows (· = path) [] root root' := by
  obtain ⟨place, here, free, kinds⟩ := Folder.kind?_of_makeFolder h
  have folders (t : List Bytes) (folder : root.kind? t = some .folder) :
      root'.kind? t = some .folder := by
    rw [kinds]
    split_ifs
    · rfl
    · exact folder
  intro trail _
  by_cases same : trail = place
  · subst same
    exact .inr ⟨free, by rw [kinds, if_pos rfl], path, rfl, Folder.place?_mono folders here⟩
  · exact .inl (by rw [kinds, if_neg same])

end ScriptPress.Disk
