import ScriptPress.Disk.Error
import ScriptPress.Disk.Folder
import ScriptPress.Text.Blank
import ScriptPress.Text.Piece

/-!
# Paths

The text of a path, the parts it is read as, and where it leads in a tree of folders.

## Main definitions

* `Segment`, `segments` — the parts between the slashes.
* `parent?`, `fileName?`, `splitExtension`, `fileStem`, `withExtension` — the usual parts of a
  path.
* `Folder.locate` — the folder that a path leads into, and the last part of it.
-/

namespace ScriptPress.Disk

open Text

inductive Segment where
  | here
  | up
  | name (text : List Char)
  deriving DecidableEq, Repr

namespace Segment

def ofText (s : List Char) : Segment :=
  if s = ['.'] then here else if s = ['.', '.'] then up else name s

def text : Segment → List Char
  | here => ['.']
  | up => ['.', '.']
  | name s => s

end Segment

/-! ## Parts of a path -/

def segments (path : List Char) : List Segment :=
  ((pieces (· == '/') path).filter (!·.isEmpty)).map Segment.ofText

/-- The parts of a path that count: a part that stays where it is does so only at the front. -/
def components (path : List Char) : List Segment :=
  match segments path with
  | .here :: rest =>
    if path.head? == some '/' then rest.filter (· ≠ .here)
    else .here :: rest.filter (· ≠ .here)
  | all => all.filter (· ≠ .here)

def joined (absolute : Bool) (parts : List Segment) : List Char :=
  (if absolute then ['/'] else []) ++ List.intercalate ['/'] (parts.map Segment.text)

def isAbsolute (path : List Char) : Bool := path.head? == some '/'

def parent? (path : List Char) : Option (List Char) :=
  let parts := components path
  if parts.isEmpty then none else some (joined (isAbsolute path) parts.dropLast)

def fileName? (path : List Char) : Option (List Char) :=
  match (components path).getLast? with
  | some (.name s) => some s
  | _ => none

/-- A file name in front of its last point, and what stands behind it. A point at the front does not
count, so the name may have no extension. -/
def splitExtension (name : List Char) : List Char × Option (List Char) :=
  let ext := takeEndWhile (· != '.') name
  let stem := name.take (name.length - ext.length - 1)
  if stem.isEmpty then (name, none) else (stem, some ext)

def fileStem (name : List Char) : List Char := (splitExtension name).1

/-- The path cut at its end by the length of its extension, so that its last point stays. -/
def withoutExtension (path : List Char) : List Char :=
  match (fileName? path).bind fun name => (splitExtension name).2 with
  | some ext => path.take (path.length - ext.length)
  | none => path

/-- The path with another extension. The old one is cut off first, and a path that ends in no name
then stays so: of `..a` only `..` is left, which leads to a folder. -/
def withExtension (path ext : List Char) : List Char :=
  let bare := withoutExtension path
  match fileName? bare with
  | some name =>
    joined (isAbsolute bare)
      ((components bare).dropLast ++ [.name (fileStem name ++ '.' :: ext)])
  | none => bare

/-- Whether a path asks for a folder by its end. -/
def wantsFolder (path : List Char) : Bool :=
  path.getLast? == some '/' || (segments path).getLast? == some .here ||
    (segments path).getLast? == some .up

/-! ## Where a path leads -/

def maxNameLength : Nat := 255

/-- From a folder along names, each of which must be a folder. -/
def Folder.enter (root : Folder) :
    (trail : List Bytes) → List Segment → Except OsError (List Bytes)
  | trail, [] => .ok trail
  | trail, .here :: rest => enter root trail rest
  | trail, .up :: rest => enter root trail.dropLast rest
  | trail, .name s :: rest =>
    let next := trail ++ [utf8 s]
    if maxNameLength < (utf8 s).length then .error .nameTooLong
    else
      match root.get? next with
      | some (.folder _) => enter root next rest
      | some (.file _) => .error .notDirectory
      | none => .error .notFound

/-- The folder that a path leads into, and its last part. An empty path leads nowhere. -/
def Folder.locate (root : Folder) (path : List Char) : Except OsError (List Bytes × Segment) :=
  if path.contains '\x00' then .error .nulInPath
  else
    match (segments path).getLast? with
    | none => if isAbsolute path then .ok ([], .here) else .error .notFound
    | some last => do
      let trail ← root.enter [] (segments path).dropLast
      return (trail, last)

end ScriptPress.Disk
