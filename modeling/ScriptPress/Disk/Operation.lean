import ScriptPress.Disk.Path

/-!
# File operations

What the operating system does to a tree of folders: reading and writing files, making folders,
renaming. An operation that is refused changes nothing.

## Main definitions

* `Folder.readFile`, `Folder.writeFile`, `Folder.renameFile`, `Folder.makeFolder` — the operations.
* `System` — an operating system, which may refuse more than its tree rules out.
* `System.ofTree` — the one that refuses nothing else.
* `System.makeFolders` — a folder with everything that leads to it.
-/

namespace ScriptPress.Disk

open Text

namespace Folder

def node? (root : Folder) (path : List Char) : Except OsError Node := do
  match ← root.locate path with
  | (trail, .name s) =>
    if maxNameLength < (utf8 s).length then throw .nameTooLong
    match root.get? (trail ++ [utf8 s]) with
    | some node => return node
    | none => throw .notFound
  | (trail, .here) => return .folder ((root.get? trail).elim [] fun | .folder f => f | _ => [])
  | (trail, .up) =>
    return .folder ((root.get? trail.dropLast).elim [] fun | .folder f => f | _ => [])

def isFolder (root : Folder) (path : List Char) : Bool :=
  match root.node? path with
  | .ok (.folder _) => true
  | _ => false

def readFile (root : Folder) (path : List Char) : Except OsError Bytes := do
  match ← root.node? path with
  | .file bytes => if wantsFolder path then throw .notDirectory else return bytes
  | .folder _ => throw .isDirectory

def changed (root : Folder) (change : Folder → Folder) (trail : List Bytes) : Folder :=
  (root.modify? change trail).getD root

def writeFile (root : Folder) (path : List Char) (bytes : Bytes) : Except OsError Folder := do
  match ← root.locate path with
  | (trail, .name s) =>
    if maxNameLength < (utf8 s).length then throw .nameTooLong
    if wantsFolder path then throw .isDirectory
    match root.get? (trail ++ [utf8 s]) with
    | some (.folder _) => throw .isDirectory
    | _ => return root.changed (·.put (utf8 s) (.file bytes)) trail
  | _ => throw .isDirectory

def makeFolder (root : Folder) (path : List Char) : Except OsError Folder := do
  match ← root.locate path with
  | (trail, .name s) =>
    if maxNameLength < (utf8 s).length then throw .nameTooLong
    match root.get? (trail ++ [utf8 s]) with
    | some _ => throw .alreadyExists
    | none => return root.changed (·.put (utf8 s) (.folder [])) trail
  | _ => throw .alreadyExists

/-- A file under another name, in place of a file of that name. -/
def renameFile (root : Folder) (source target : List Char) : Except OsError Folder := do
  let bytes ← root.readFile source
  match ← root.locate source, ← root.locate target with
  | (trail, .name s), (trail', .name t) =>
    if maxNameLength < (utf8 t).length then throw .nameTooLong
    if wantsFolder target then throw .notDirectory
    match root.get? (trail' ++ [utf8 t]) with
    | some (.folder _) => throw .isDirectory
    | _ =>
      return (root.changed (·.erase (utf8 s)) trail).changed (·.put (utf8 t) (.file bytes)) trail'
  | _, _ => throw .busy

def carryOut (root : Folder) (op : Folder → Except OsError Folder) : Except OsError Unit × Folder :=
  match op root with
  | .ok root => (.ok (), root)
  | .error e => (.error e, root)

/-- An operation was carried out, or refused with nothing changed. -/
def Undergoes (before : Folder) (op : Folder → Except OsError Folder) :
    Except OsError Unit → Folder → Prop
  | .ok (), after => op before = .ok after
  | .error _, after => after = before

theorem undergoes_carryOut (root : Folder) (op : Folder → Except OsError Folder) :
    root.Undergoes op (root.carryOut op).1 (root.carryOut op).2 := by
  unfold carryOut
  cases done : op root with
  | ok _ => exact done
  | error _ => rfl

end Folder

/-! ## Operating systems -/

/-- An operating system: its states, with a tree of folders in each, and the operations that change
the tree. It may refuse an operation for reasons of its own, such as a full disk. -/
structure System (S : Type) where
  tree : S → Folder
  makeFolder : S → (path : List Char) → Except OsError Unit × S
  writeFile : S → (path : List Char) → Bytes → Except OsError Unit × S
  renameFile : S → (source target : List Char) → Except OsError Unit × S
  undergoes_makeFolder (s : S) (path : List Char) :
    (tree s).Undergoes (·.makeFolder path) (makeFolder s path).1 (tree (makeFolder s path).2)
  undergoes_writeFile (s : S) (path : List Char) (bytes : Bytes) :
    (tree s).Undergoes (·.writeFile path bytes) (writeFile s path bytes).1
      (tree (writeFile s path bytes).2)
  undergoes_renameFile (s : S) (source target : List Char) :
    (tree s).Undergoes (·.renameFile source target) (renameFile s source target).1
      (tree (renameFile s source target).2)

namespace System

/-- The operating system that refuses only what its tree rules out. -/
def ofTree : System Folder where
  tree root := root
  makeFolder root path := root.carryOut (·.makeFolder path)
  writeFile root path bytes := root.carryOut (·.writeFile path bytes)
  renameFile root source target := root.carryOut (·.renameFile source target)
  undergoes_makeFolder _ _ := Folder.undergoes_carryOut _ _
  undergoes_writeFile _ _ _ := Folder.undergoes_carryOut _ _
  undergoes_renameFile _ _ _ := Folder.undergoes_carryOut _ _

variable {S : Type} (os : System S)

/-- A folder with everything that leads to it; `depth` bounds the number of parts. What has been
made stays when a later part is refused. -/
def makeFolders (s : S) (path : List Char) : (depth : Nat) → Except OsError Unit × S
  | 0 => (.ok (), s)
  | depth + 1 =>
    if path.isEmpty then (.ok (), s)
    else
      let settle (s : S) (e : OsError) : Except OsError Unit × S :=
        if (os.tree s).isFolder path then (.ok (), s) else (.error e, s)
      match os.makeFolder s path with
      | (.ok (), s) => (.ok (), s)
      | (.error .notFound, s) =>
        match makeFolders s ((parent? path).getD []) depth with
        | (.error e, s) => (.error e, s)
        | (.ok (), s) =>
          match os.makeFolder s path with
          | (.ok (), s) => (.ok (), s)
          | (.error e, s) => settle s e
      | (.error e, s) => settle s e

end System

def Folder.makeFolders (root : Folder) (path : List Char) (depth : Nat) :
    Except OsError Unit × Folder :=
  System.ofTree.makeFolders root path depth

end ScriptPress.Disk
