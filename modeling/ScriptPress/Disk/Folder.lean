import ScriptPress.Text.Utf8

/-!
# Folders

A tree of folders and files. Names are byte sequences, as the operating system sees them, and an
entry is found by its name; the order of the entries means nothing.

## Main definitions

* `Node` — a file with its bytes, or a folder with its entries.
* `Folder.find?`, `Folder.put`, `Folder.erase` — the entries of one folder.
* `Folder.get?`, `Folder.modify?` — entries at the end of a trail of names.
-/

namespace ScriptPress.Disk

inductive Node where
  | file (bytes : Bytes)
  | folder (entries : List (Bytes × Node))
  deriving Repr

abbrev Folder := List (Bytes × Node)

namespace Folder

def find? (f : Folder) (name : Bytes) : Option Node := f.lookup name

def erase (f : Folder) (name : Bytes) : Folder := f.filter (·.1 != name)

def put (f : Folder) (name : Bytes) (node : Node) : Folder := f.erase name ++ [(name, node)]

/-- What is at the end of a trail of names. -/
def get? (f : Folder) : List Bytes → Option Node
  | [] => some (.folder f)
  | name :: trail =>
    match f.find? name, trail with
    | found, [] => found
    | some (.folder g), trail => get? g trail
    | _, _ => none

/-- The tree with the folder at the end of a trail changed by `change`. -/
def modify? (f : Folder) (change : Folder → Folder) : List Bytes → Option Folder
  | [] => some (change f)
  | name :: trail =>
    match f.find? name with
    | some (.folder g) => (modify? g change trail).map fun g => f.put name (.folder g)
    | _ => none

end Folder

mutual

/-- Every entry below a folder with its trail of names; a folder comes before what is in it. -/
def Folder.walk (before : List Bytes) : List (Bytes × Node) → List (List Bytes × Node)
  | [] => []
  | (name, node) :: entries =>
    (before ++ [name], node) :: node.walk (before ++ [name]) ++ Folder.walk before entries

def Node.walk (before : List Bytes) : Node → List (List Bytes × Node)
  | .file _ => []
  | .folder entries => Folder.walk before entries

end

end ScriptPress.Disk
