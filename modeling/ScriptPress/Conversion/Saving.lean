import ScriptPress.Conversion.Outcome
import ScriptPress.Disk.Operation

/-!
# Saving

The delivered document as a file. It is written beside its place and renamed, so a file at the place
is either as before or whole.

## Main definitions

* `Disk.System.save` — a file is written and renamed.
* `Disk.System.saveOutput`, `saveOutput` — the document of a request as a file.
-/

namespace ScriptPress

open Disk

def unfinishedExtension : List Char := "pdf.tmp".toList

/-- The path from the root that a path in a working folder stands for. -/
def Disk.from (folder path : List Char) : List Char :=
  if path.isEmpty || isAbsolute path || folder.isEmpty then path else folder ++ '/' :: path

def Disk.folderPath (work path : List Char) : List Char := Disk.from work ((parent? path).getD [])

def Disk.unfinishedPath (work path : List Char) : List Char :=
  Disk.from work (withExtension path unfinishedExtension)

/-- The output of a request, unless its file was refused. -/
def Output.savedAt (path : String) (output : Output) :
    Except OsError Unit → Except ConversionError Output
  | .ok () => .ok output
  | .error e => .error (.outputWrite path e.message)

namespace Disk.System

variable {S : Type} (os : System S)

/-- Writes a file beside its place, with the folders that lead there, and renames it. What was done
before a step that is refused stays. Paths begin in the folder `work`. -/
def save (s : S) (work path : List Char) (bytes : Bytes) : Except OsError Unit × S :=
  match os.makeFolders s (folderPath work path) ((folderPath work path).length + 1) with
  | (.error e, s) => (.error e, s)
  | (.ok (), s) =>
    match os.writeFile s (unfinishedPath work path) bytes with
    | (.error e, s) => (.error e, s)
    | (.ok (), s) => os.renameFile s (unfinishedPath work path) (Disk.from work path)

/-- The document of a request as a file at a path that begins in the folder `work`. A request
without one leaves the files alone. -/
def saveOutput (s : S) (work : List Char) (path : String)
    (result : Except ConversionError Output) : Except ConversionError Output × S :=
  match result with
  | .error e => (.error e, s)
  | .ok output =>
    let (saved, s) := os.save s work path.toList output.bytes
    (output.savedAt path saved, s)

end Disk.System

/-- The document of a request as a file in a tree of folders. -/
def saveOutput (root : Folder) (work : List Char) (path : String)
    (result : Except ConversionError Output) : Except ConversionError Output × Folder :=
  System.ofTree.saveOutput root work path result

end ScriptPress
