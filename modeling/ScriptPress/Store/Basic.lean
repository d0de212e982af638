import ScriptPress.Disk.Operation
import ScriptPress.Store.FileMap
import ScriptPress.Text.Quoted

/-!
# Stores

A store keeps the files of one conversion after another under plain names. It is held in memory or
is a folder of the operating system, where other programs may put files too. Any call may fail: the
store carries a plan of the calls to come that do.

## Main definitions

* `StoreError` — why a call failed.
* `FaultPlan` — which of the calls to come fail.
* `Store` — a medium with a plan.
* `Store.list`, `Store.read`, `Store.write`, `Store.remove` — the four calls.
* `Store.listPdfs`, `Store.removePdfs` — the documents among the files.
-/

namespace ScriptPress

open Text

/-! ## Errors -/

inductive StoreCall where
  | list
  | read
  | write
  | remove
  deriving DecidableEq, Repr

def StoreCall.name : StoreCall → String
  | list => "list"
  | read => "read"
  | write => "write"
  | remove => "remove"

/-- What the medium says about a path. -/
inductive IoCause where
  /-- A store in memory has no file of that name. -/
  | noSuchFile
  | system (error : Disk.OsError)
  deriving DecidableEq, Repr

def IoCause.message : IoCause → String
  | noSuchFile => "no such file"
  | system e => e.message

inductive StoreError where
  | notPlainName (name : String)
  /-- The store was planned to refuse the call. -/
  | refused (call : StoreCall)
  | io (path : String) (cause : IoCause)
  deriving DecidableEq, Repr

def StoreError.message : StoreError → String
  | notPlainName name => s!"Sandbox failure: '{name}' is not a plain file name"
  | refused call => s!"Sandbox failure: {call.name} failed"
  | io path cause => s!"Sandbox I/O failed on '{path}': {cause.message}"

/-! ## Faults -/

/-- Which of the calls to come fail, each kind of call counted from 0. -/
abbrev FaultPlan := StoreCall → Nat → Bool

namespace FaultPlan

def none : FaultPlan := fun _ _ => false

def ofNumbers (numbers : StoreCall → List Nat) : FaultPlan :=
  fun call n => (numbers call).contains n

def after (call : StoreCall) (p : FaultPlan) : FaultPlan :=
  fun c n => if c = call then p c (n + 1) else p c n

end FaultPlan

/-! ## Stores -/

inductive Medium where
  | memory (files : FileMap)
  /-- A folder at a path, as long as it is there. -/
  | folder (path : String) (root : Option Disk.Folder)

structure Store where
  medium : Medium
  faults : FaultPlan

/-- Whether a name is that of a file and leads nowhere else. -/
def isPlainName (name : String) : Bool :=
  !(name.isEmpty || name == "." || name == ".." ||
    name.toList.any fun c => c == '/' || c == '\\' || c == '\x00')

namespace Medium

def errorAt (path name : String) (e : Disk.OsError) : StoreError :=
  .io s!"{path}/{name}" (.system e)

/-- What a folder holds under a name, unless it is gone or the name is too long. -/
def entry (root : Option Disk.Folder) (name : String) :
    Except Disk.OsError (Disk.Folder × Option Disk.Node) :=
  match root with
  | none => .error .notFound
  | some entries =>
    let bytes := utf8 name.toList
    if Disk.maxNameLength < bytes.length then .error .nameTooLong
    else .ok (entries, entries.find? bytes)

def fileNames (root : Disk.Folder) : List String :=
  let names := root.filterMap fun
    | (name, .file _) => some (String.ofList (decodeUtf8Lossy name))
    | _ => none
  names.mergeSort (fun a b => decide (a ≤ b))

def list : Medium → Except StoreError (List String)
  | memory files => .ok files.names
  | folder path root =>
    match root with
    | some root => .ok (fileNames root)
    | none => .error (.io path (.system .notFound))

def read (name : String) : Medium → Except StoreError Bytes
  | memory files =>
    match files.find? name with
    | some bytes => .ok bytes
    | none => .error (.io name .noSuchFile)
  | folder path root =>
    if !isPlainName name then .error (.notPlainName name)
    else
      match entry root name with
      | .ok (_, some (.file bytes)) => .ok bytes
      | .ok (_, some (.folder _)) => .error (errorAt path name .isDirectory)
      | .ok (_, none) => .error (errorAt path name .notFound)
      | .error e => .error (errorAt path name e)

def write (name : String) (bytes : Bytes) (m : Medium) : Except StoreError Medium :=
  if !isPlainName name then .error (.notPlainName name)
  else
    match m with
    | memory files => .ok (memory (files.insert name bytes))
    | folder path root =>
      match entry root name with
      | .ok (_, some (.folder _)) => .error (errorAt path name .isDirectory)
      | .ok (root, _) => .ok (folder path (some (root.put (utf8 name.toList) (.file bytes))))
      | .error e => .error (errorAt path name e)

/-- The medium without a file; one that is not there is no error. -/
def remove (name : String) (m : Medium) : Except StoreError Medium :=
  match m with
  | memory files => .ok (memory (files.erase name))
  | folder path root =>
    if !isPlainName name then .error (.notPlainName name)
    else
      match entry root name with
      | .ok (_, some (.folder _)) => .error (errorAt path name .isDirectory)
      | .ok (root, _) => .ok (folder path (some (root.erase (utf8 name.toList))))
      | .error .notFound => .ok m
      | .error e => .error (errorAt path name e)

def isFolder : Medium → Bool
  | memory _ => false
  | folder _ _ => true

def summary : Medium → String
  | memory files =>
    "MemoryFs \x7b files: [" ++ String.intercalate ", " (files.names.map quoted) ++ "] \x7d"
  | folder path _ => "DirFs \x7b root: " ++ quoted path ++ ", temporary: true \x7d"

end Medium

namespace Store

def inMemory (faults : FaultPlan) : Store := ⟨.memory .empty, faults⟩

def inFolder (path : String) : Store := ⟨.folder path (some []), .none⟩

/-- Carries out a call on the medium, unless the plan refuses it. -/
def attempt {α : Type} (call : StoreCall) (act : Medium → Except StoreError (α × Medium))
    (s : Store) : Except StoreError α × Store :=
  let s' : Store := { s with faults := s.faults.after call }
  if s.faults call 0 then (.error (.refused call), s')
  else
    match act s.medium with
    | .ok (a, medium) => (.ok a, { s' with medium := medium })
    | .error e => (.error e, s')

def list : Store → Except StoreError (List String) × Store :=
  attempt .list fun m => m.list.map (·, m)

def read (name : String) : Store → Except StoreError Bytes × Store :=
  attempt .read fun m => (m.read name).map (·, m)

def write (name : String) (bytes : Bytes) : Store → Except StoreError Unit × Store :=
  attempt .write fun m => (m.write name bytes).map ((), ·)

/-- Drops a file; one that is not there is no error. -/
def remove (name : String) : Store → Except StoreError Unit × Store :=
  attempt .remove fun m => (m.remove name).map ((), ·)

/-! ## Documents -/

def pdfExtension : String := ".pdf"

/-- Whether a file counts as a document, by its name. -/
def isPdfName (name : String) : Bool := pdfExtension.toList.isSuffixOf name.toList

section

variable {m : Type → Type} [Monad m]

def pdfsBy (list : m (Except StoreError (List String))) : m (Except StoreError (List String)) := do
  return (← list).map (·.filter isPdfName)

/-- Drops files one after the other by the given call, and says how many; one that cannot be dropped
stays. -/
def removeEachBy (remove : String → m (Except StoreError Unit)) : List String → m Nat
  | [] => return 0
  | name :: names => do
    match ← remove name with
    | .ok () => return (← removeEachBy remove names) + 1
    | .error _ => removeEachBy remove names

/-- Drops the documents by the given calls, and says how many. -/
def removePdfsBy (list : m (Except StoreError (List String)))
    (remove : String → m (Except StoreError Unit)) : m (Except StoreError Nat) := do
  match ← pdfsBy list with
  | .ok names => return .ok (← removeEachBy remove names)
  | .error e => return .error e

end

def listPdfs : StateM Store (Except StoreError (List String)) := pdfsBy list

def removePdfs : StateM Store (Except StoreError Nat) := removePdfsBy list remove

/-! ## Other programs -/

def isRooted (s : Store) : Bool := s.medium.isFolder

/-- The store with its folder changed from outside. -/
def outside (change : Option Disk.Folder → Option Disk.Folder) (s : Store) : Store :=
  match s.medium with
  | .memory _ => s
  | .folder path root => { s with medium := .folder path (change root) }

/-- Whether another program can put a file under a name. -/
def takes (name : Bytes) (s : Store) : Bool :=
  match s.medium with
  | .folder _ (some entries) =>
    match entries.find? name with
    | some (.folder _) => false
    | _ => true
  | _ => false

/-- The store with a file put into its folder by another program. A folder of that name stays. -/
def place (name bytes : Bytes) : Store → Store :=
  outside fun root => root.map fun entries =>
    match entries.find? name with
    | some (.folder _) => entries
    | _ => entries.put name (.file bytes)

/-- The store with a folder made in its folder by another program, unless the name is taken. -/
def placeFolder (name : Bytes) : Store → Store :=
  outside fun root => root.map fun entries =>
    if (entries.find? name).isSome then entries else entries.put name (.folder [])

def loseFolder : Store → Store := outside fun _ => none

end Store

end ScriptPress
