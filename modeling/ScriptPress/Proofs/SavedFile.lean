import ScriptPress.Conversion.Saving
import ScriptPress.Proofs.FolderTree
import ScriptPress.Proofs.PathName

/-!
# Saved files

A document is written beside its place and renamed. If that succeeds, the file at the place is the
document. If not, the place is as before, and so is every other file, but for one case: where the
renaming is refused, the unfinished file stays.

## Main definitions

* `LeadsTo` — the folders on the way of a path.
* `Disk.System.Staged` — the unfinished file was written.

## Main statements

* `Disk.System.grows_makeFolders` — making folders leaves everything else alone.
* `Disk.System.save_ok`, `Disk.System.save_error` — what is there after saving.
* `saveOutput_all_or_nothing_iff` — saving is all or nothing exactly where no unfinished file stays.
* `unfinished_left` — a document that is saved at the place of a folder.
-/

namespace ScriptPress

open Disk Text

/-! ## Folders on the way -/

/-- A path, the path to the folder that it is in, and so on. -/
inductive LeadsTo (path : List Char) : List Char → Prop
  | here : LeadsTo path path
  | parent {way : List Char} (h : LeadsTo path way) : LeadsTo path ((parent? way).getD [])

theorem LeadsTo.of_parent {path way : List Char} (h : LeadsTo ((parent? path).getD []) way) :
    LeadsTo path way := by
  induction h with
  | here => exact .parent .here
  | parent _ ih => exact .parent ih

namespace Disk.System

variable {S : Type} (os : System S) (s : S)

theorem grows_makeFolder (path : List Char) :
    Grows (· = path) [] (os.tree s) (os.tree (os.makeFolder s path).2) := by
  have done := os.undergoes_makeFolder s path
  cases answer : (os.makeFolder s path).1 with
  | ok _ =>
    rw [answer] at done
    exact grows_of_makeFolder done
  | error _ =>
    rw [answer] at done
    rw [show os.tree (os.makeFolder s path).2 = os.tree s from done]
    exact .refl _ _ _

/-- Making folders leaves everything else alone. -/
theorem grows_makeFolders (path : List Char) (depth : Nat) :
    Grows (LeadsTo path) [] (os.tree s) (os.tree (os.makeFolders s path depth).2) := by
  induction depth generalizing s path with
  | zero => exact .refl _ _ _
  | succ depth ih =>
    have one (s : S) : Grows (LeadsTo path) [] (os.tree s) (os.tree (os.makeFolder s path).2) :=
      (os.grows_makeFolder s path).mono fun _ same => same ▸ .here
    have settled (s : S) (e : OsError) : (if (os.tree s).isFolder path then (.ok (), s) else
        ((.error e, s) : Except OsError Unit × S)).2 = s := by
      split_ifs <;> rfl
    rw [makeFolders]
    split_ifs with empty
    · exact .refl _ _ _
    have first := one s
    dsimp only
    split
    · next s₁ made => rwa [made] at first
    · next s₁ made =>
      rw [made] at first
      have way := (ih s₁ ((parent? path).getD [])).mono fun _ => LeadsTo.of_parent
      split
      · next e s₂ failed =>
        rw [failed] at way
        exact first.trans way
      · next s₂ there =>
        rw [there] at way
        have last := one s₂
        split
        · next s₃ made' =>
          rw [made'] at last
          exact first.trans (way.trans last)
        · next e s₃ refused =>
          rw [refused] at last
          rw [settled]
          exact first.trans (way.trans last)
    · next e s₁ refused =>
      rw [refused] at first
      rw [settled]
      exact first

end Disk.System

/-! ## Two places -/

theorem getLast?_segments_from (work path : List Char) :
    (segments (Disk.from work path)).getLast? = (segments path).getLast? := by
  unfold Disk.from
  split_ifs with same
  · rfl
  · simp only [Bool.or_eq_true, not_or] at same
    have something : segments path ≠ [] := by
      cases path with
      | nil => simp at same
      | cons c path =>
        have plain : (c == '/') = false := by simpa [isAbsolute] using same.1.2
        exact segments_ne_nil plain
    rw [segments_append, List.getLast?_append_of_ne_nil _ something]

theorem last_of_place? {root : Folder} {path : List Char} {place : List Bytes}
    (h : root.place? path = some place) :
    ∃ name, (segments path).getLast? = some (.name name) ∧ place.getLast? = some (utf8 name) := by
  obtain ⟨trail, name, located, -, rfl⟩ := Folder.place?_eq_some_iff.1 h
  obtain ⟨-, ⟨-, -, -, here⟩ | ⟨last, -⟩⟩ := Folder.locate_eq_ok_iff.1 located
  · cases here
  · exact ⟨name, last, List.getLast?_concat⟩

theorem utf8_injective : Function.Injective utf8 := fun s t same => by
  rw [← decodeUtf8Lossy_utf8 s, same, decodeUtf8Lossy_utf8]

/-- The unfinished file is another one than the one that is saved. -/
theorem place?_unfinished_ne {root root' : Folder} {work path : List Char}
    {origin place : List Bytes}
    (unfinished : root.place? (unfinishedPath work path) = some origin)
    (target : root'.place? (Disk.from work path) = some place) : origin ≠ place := by
  rintro rfl
  obtain ⟨name, last, text⟩ := last_of_place? unfinished
  obtain ⟨name', last', text'⟩ := last_of_place? target
  obtain rfl := utf8_injective (Option.some.inj (text.symm.trans text'))
  rw [unfinishedPath, getLast?_segments_from] at last
  rw [getLast?_segments_from] at last'
  have plain : ∀ c ∈ "pdf.tmp".toList, c ≠ '/' := by simp
  have stem := last_withExtension last' last plain
  exact fileStem_append_ne _ (by decide) stem.symm

/-! ## What is there after saving -/

namespace Disk.System

variable {S : Type} (os : System S)

/-- The unfinished file was written, behind the folders that lead there. -/
def Staged (s : S) (work path : List Char) (bytes : Bytes) (s₂ : S) : Prop :=
  ∃ s₁, os.makeFolders s (folderPath work path) ((folderPath work path).length + 1) =
      (.ok (), s₁) ∧ os.writeFile s₁ (unfinishedPath work path) bytes = (.ok (), s₂)

variable {os} {s s₂ s' : S} {work path : List Char} {bytes : Bytes}

/-- Saving ends before the unfinished file is written, or with the renaming. -/
theorem save_cases {answer : Except OsError Unit} (h : os.save s work path bytes = (answer, s')) :
    (∃ e, answer = .error e) ∧ (∀ s₂, ¬os.Staged s work path bytes s₂) ∧
        Grows (LeadsTo (folderPath work path)) [] (os.tree s) (os.tree s') ∨
      ∃ s₂, os.Staged s work path bytes s₂ ∧
        os.renameFile s₂ (unfinishedPath work path) (Disk.from work path) = (answer, s') := by
  have folders := os.grows_makeFolders s (folderPath work path) ((folderPath work path).length + 1)
  simp only [save] at h
  split at h
  · next e s₁ failed =>
    rw [failed] at folders
    cases h
    refine .inl ⟨⟨e, rfl⟩, ?_, folders⟩
    rintro s₂ ⟨s₁, there, -⟩
    simp [failed] at there
  · next s₁ there =>
    rw [there] at folders
    split at h
    · next e s₂ refused =>
      cases h
      have unwritten := os.undergoes_writeFile s₁ (unfinishedPath work path) bytes
      rw [refused] at unwritten
      refine .inl ⟨⟨e, rfl⟩, ?_, by rwa [show os.tree s' = os.tree s₁ from unwritten]⟩
      rintro s₃ ⟨s₂, there', written⟩
      obtain rfl : s₂ = s₁ := by simpa [there, eq_comm] using there'
      simp [refused] at written
    · next s₂ written => exact .inr ⟨s₂, ⟨s₁, there, written⟩, h⟩

/-- Once the unfinished file is written, it holds the bytes, and all other files are as before. -/
theorem Staged.exists_origin (h : os.Staged s work path bytes s₂) : ∃ origin,
    (os.tree s₂).place? (unfinishedPath work path) = some origin ∧
      (os.tree s₂).readFile (unfinishedPath work path) = .ok bytes ∧
      (os.tree s₂).kind? origin = some (.file bytes) ∧
      Grows (LeadsTo (folderPath work path)) [origin] (os.tree s) (os.tree s₂) := by
  obtain ⟨s₁, there, written⟩ := h
  have folders := os.grows_makeFolders s (folderPath work path) ((folderPath work path).length + 1)
  have done := os.undergoes_writeFile s₁ (unfinishedPath work path) bytes
  rw [there] at folders
  rw [written] at done
  obtain ⟨named, origin, place, free, kinds⟩ := Folder.kind?_of_writeFile done
  have kept (t : List Bytes) (folder : (os.tree s₁).kind? t = some .folder) :
      (os.tree s₂).kind? t = some .folder := by
    have other : t ≠ origin := fun same => free (same ▸ folder)
    rw [kinds, if_neg other, folder]
  have held : (os.tree s₂).kind? origin = some (.file bytes) := by rw [kinds, if_pos rfl]
  have place' := Folder.place?_mono kept place
  refine ⟨origin, place', Folder.readFile_eq_ok_iff.2 ⟨named, origin, place', held⟩, held, ?_⟩
  refine folders.change (List.nil_subset _) (fun t other => ?_) kept
  rw [kinds, if_neg (by simpa using other)]

/-- What is there once a file is saved: the bytes at its place, nothing at the place of the
unfinished file, and everything else as before. -/
theorem save_ok (h : os.save s work path bytes = (.ok (), s')) :
    (os.tree s').readFile (Disk.from work path) = .ok bytes ∧ ∃ origin place,
      (os.tree s').place? (unfinishedPath work path) = some origin ∧
      (os.tree s').kind? origin = none ∧ (os.tree s').place? (Disk.from work path) = some place ∧
      Grows (LeadsTo (folderPath work path)) [origin, place] (os.tree s) (os.tree s') := by
  obtain ⟨⟨e, failed⟩, -⟩ | ⟨s₂, staged, renamed⟩ := save_cases h
  · cases failed
  obtain ⟨origin, unfinished, read, held, grows⟩ := staged.exists_origin
  have done := os.undergoes_renameFile s₂ (unfinishedPath work path) (Disk.from work path)
  rw [renamed] at done
  obtain ⟨named, bytes', origin', place, read', same, target, free, kinds⟩ :=
    Folder.kind?_of_renameFile done
  obtain rfl : bytes = bytes' := Except.ok.inj (read.symm.trans read')
  obtain rfl : origin = origin' := Option.some.inj (unfinished.symm.trans same)
  have apart : origin ≠ place := place?_unfinished_ne unfinished target
  have kept (t : List Bytes) (folder : (os.tree s₂).kind? t = some .folder) :
      (os.tree s').kind? t = some .folder := by
    have other : t ≠ place := fun same => free (same ▸ folder)
    have other' : t ≠ origin := fun same => by simp [same, held] at folder
    rw [kinds, if_neg other, if_neg other', folder]
  have target' := Folder.place?_mono kept target
  refine ⟨Folder.readFile_eq_ok_iff.2 ⟨named, place, target', by rw [kinds, if_pos rfl]⟩,
    origin, place, Folder.place?_mono kept unfinished, ?_, target', ?_⟩
  · rw [kinds, if_neg apart, if_pos rfl]
  · refine grows.change (by simp) (fun t other => ?_) kept
    obtain ⟨other', other⟩ : t ≠ origin ∧ t ≠ place := by simpa using other
    rw [kinds, if_neg other, if_neg other']

/-- What is there if a file could not be saved: everything is as before, or the unfinished file is
there and everything else is as before. -/
theorem save_error {e : OsError} (h : os.save s work path bytes = (.error e, s')) :
    (∀ s₂, ¬os.Staged s work path bytes s₂) ∧
        Grows (LeadsTo (folderPath work path)) [] (os.tree s) (os.tree s') ∨
      (∃ s₂, os.Staged s work path bytes s₂) ∧
        (os.tree s').readFile (unfinishedPath work path) = .ok bytes ∧ ∃ origin,
          (os.tree s').place? (unfinishedPath work path) = some origin ∧
          (os.tree s').kind? origin = some (.file bytes) ∧
          (os.tree s').place? (Disk.from work path) ≠ some origin ∧
          Grows (LeadsTo (folderPath work path)) [origin] (os.tree s) (os.tree s') := by
  obtain ⟨-, unstaged, grows⟩ | ⟨s₂, staged, refused⟩ := save_cases h
  · exact .inl ⟨unstaged, grows⟩
  · obtain ⟨origin, unfinished, read, held, grows⟩ := staged.exists_origin
    have unchanged := os.undergoes_renameFile s₂ (unfinishedPath work path) (Disk.from work path)
    rw [refused] at unchanged
    rw [show os.tree s' = os.tree s₂ from unchanged]
    refine .inr ⟨⟨s₂, staged⟩, read, origin, unfinished, held, fun target => ?_, grows⟩
    exact place?_unfinished_ne unfinished target rfl

/-- A document is saved if its request has one and its file is saved. -/
theorem saveOutput_ok {path : String} {result : Except ConversionError Output} {o : Output}
    (h : os.saveOutput s work path result = (.ok o, s')) :
    result = .ok o ∧ os.save s work path.toList o.bytes = (.ok (), s') := by
  cases result with
  | error e => simp [saveOutput] at h
  | ok output =>
    rcases saved : os.save s work path.toList output.bytes with ⟨answer, s₁⟩
    simp only [saveOutput, saved, Prod.mk.injEq] at h
    obtain ⟨delivered, rfl⟩ := h
    cases answer with
    | ok _ =>
      obtain rfl : output = o := Except.ok.inj delivered
      exact ⟨rfl, saved⟩
    | error e => cases delivered

theorem saveOutput_error {path : String} {result : Except ConversionError Output}
    {e : ConversionError} (h : os.saveOutput s work path result = (.error e, s')) :
    (∀ o, result ≠ .ok o) ∧ s' = s ∨
      ∃ o e, result = .ok o ∧ os.save s work path.toList o.bytes = (.error e, s') := by
  cases result with
  | error e' =>
    simp only [saveOutput, Prod.mk.injEq] at h
    refine .inl ⟨fun o same => ?_, h.2.symm⟩
    cases same
  | ok output =>
    rcases saved : os.save s work path.toList output.bytes with ⟨answer, s₁⟩
    simp only [saveOutput, saved, Prod.mk.injEq] at h
    obtain ⟨failed, rfl⟩ := h
    cases answer with
    | ok _ => cases failed
    | error e => exact .inr ⟨output, e, rfl, saved⟩

/-- If a document could not be saved, all is as before exactly where the unfinished file was not
written or had stood there before. -/
theorem saveOutput_error_settled {path : String} {result : Except ConversionError Output}
    {e : ConversionError} (h : os.saveOutput s work path result = (.error e, s')) :
    (Grows (LeadsTo (folderPath work path.toList)) [] (os.tree s) (os.tree s') ↔
      ∀ o s₂, result = .ok o → os.Staged s work path.toList o.bytes s₂ →
        ∀ origin, (os.tree s').place? (unfinishedPath work path.toList) = some origin →
          (os.tree s).kind? origin = some (.file o.bytes)) ∧
    ∀ o s₂, result = .ok o → os.Staged s work path.toList o.bytes s₂ →
      (os.tree s').readFile (unfinishedPath work path.toList) = .ok o.bytes ∧
        ∃ origin, (os.tree s').place? (unfinishedPath work path.toList) = some origin ∧
          (os.tree s').place? (Disk.from work path.toList) ≠ some origin ∧
          Grows (LeadsTo (folderPath work path.toList)) [origin] (os.tree s) (os.tree s') := by
  obtain ⟨none, rfl⟩ | ⟨output, e, rfl, refused⟩ := saveOutput_error h
  · exact ⟨⟨fun _ o _ same => absurd same (none o), fun _ => .refl _ _ _⟩,
      fun o _ same => absurd same (none o)⟩
  obtain ⟨unstaged, grows⟩ | ⟨⟨s₂, staged⟩, read, origin, place, held, apart, grows⟩ :=
    save_error refused
  · refine ⟨⟨fun _ o s₂ same staged => ?_, fun _ => grows⟩, fun o s₂ same staged => ?_⟩ <;>
      cases same <;> exact absurd staged (unstaged s₂)
  · refine ⟨⟨fun all o _ same _ origin' place' => ?_, fun was t _ => ?_⟩, fun o _ same _ => ?_⟩
    · cases same
      obtain rfl := Option.some.inj (place.symm.trans place')
      exact all.file_iff.1 held
    · by_cases same : t = origin
      · exact .inl (by rw [same, held, was output s₂ rfl staged origin place])
      · exact grows t (by simpa using same)
    · cases same
      exact ⟨read, origin, place, apart, grows⟩

end Disk.System

/-- Saving the document of a request. If that succeeds, the file at the path is the document, there
is no unfinished file, and all else is as before. If it fails, all is as before exactly where the
unfinished file was not written or had stood there before; where it was written it stays, and all
else is as before, what stands at the path too. New folders on the way of the path do not count. -/
theorem saveOutput_all_or_nothing_iff {S : Type} (os : System S) (s : S) (work : List Char)
    (path : String) (result : Except ConversionError Output) :
    let saved := os.saveOutput s work path result
    let before := os.tree s
    let after := os.tree saved.2
    let target := Disk.from work path.toList
    let unfinished := unfinishedPath work path.toList
    let ways := LeadsTo (folderPath work path.toList)
    (∀ o, saved.1 = .ok o → result = .ok o ∧ after.readFile target = .ok o.bytes ∧
      ∃ origin place, after.place? unfinished = some origin ∧ after.kind? origin = none ∧
        after.place? target = some place ∧ Grows ways [origin, place] before after) ∧
    ∀ e, saved.1 = .error e →
      (Grows ways [] before after ↔
        ∀ o s₂, result = .ok o → os.Staged s work path.toList o.bytes s₂ →
          ∀ origin, after.place? unfinished = some origin →
            before.kind? origin = some (.file o.bytes)) ∧
      ∀ o s₂, result = .ok o → os.Staged s work path.toList o.bytes s₂ →
        after.readFile unfinished = .ok o.bytes ∧
          ∃ origin, after.place? unfinished = some origin ∧ after.place? target ≠ some origin ∧
            Grows ways [origin] before after := by
  intro saved before after target unfinished ways
  refine ⟨fun o delivered => ?_, fun e failed => ?_⟩
  · obtain ⟨same, written⟩ := System.saveOutput_ok (Prod.ext delivered rfl)
    exact ⟨same, System.save_ok written⟩
  · exact System.saveOutput_error_settled (Prod.ext failed rfl)

def letterOutput : Output where
  filename := "a.pdf"
  artifact := "a.pdf"
  bytes := [65]
  outcome := .saved
  diagnosis := none
  proposedFix := none
  stdout := ""
  stats := .zero

def oneFolder : Folder := [(utf8 "out".toList, .folder [])]

/-- The document is saved in a new folder; at the place of a folder it is not, and the unfinished
file is there. -/
theorem letter_saved :
    (saveOutput [] [] "new/a.pdf" (.ok letterOutput)).2.readFile "new/a.pdf".toList = .ok [65] ∧
      (saveOutput oneFolder [] "out" (.ok letterOutput)).2.readFile "out.pdf.tmp".toList =
        .ok [65] := by
  have fresh := saveOutput_all_or_nothing_iff .ofTree [] [] "new/a.pdf" (.ok letterOutput)
  have taken := saveOutput_all_or_nothing_iff .ofTree oneFolder [] "out" (.ok letterOutput)
  have delivered : (saveOutput [] [] "new/a.pdf" (.ok letterOutput)).1 = .ok letterOutput := by
    decide +kernel
  have refused : (saveOutput oneFolder [] "out" (.ok letterOutput)).1 =
      .error (.outputWrite "out" "Is a directory (os error 21)") := by
    decide +kernel
  have staged : System.ofTree.Staged oneFolder [] "out".toList [65]
      (System.ofTree.writeFile oneFolder (unfinishedPath [] "out".toList) [65]).2 := by
    have root : folderPath [] "out".toList = [] := by decide +kernel
    exact ⟨oneFolder, by rw [root]; rfl, Prod.ext (by decide +kernel) rfl⟩
  exact ⟨(fresh.1 _ delivered).2.1, ((taken.2 _ refused).2 _ _ rfl staged).1⟩

/-- Saving failed, and a file is there that was not there before. -/
theorem unfinished_left :
    let saved := saveOutput oneFolder [] "out" (.ok letterOutput)
    saved.1 = .error (.outputWrite "out" "Is a directory (os error 21)") ∧
      oneFolder.kind? [utf8 "out.pdf.tmp".toList] = none ∧
      saved.2.kind? [utf8 "out.pdf.tmp".toList] = some (.file letterOutput.bytes) := by
  decide +kernel

end ScriptPress
