/-!
# Errors of the operating system

## Main definitions

* `OsError`, `OsError.message` — why a file operation was refused.
-/

namespace ScriptPress.Disk

inductive OsError where
  | notFound
  | busy
  | alreadyExists
  | notDirectory
  | isDirectory
  | nameTooLong
  /-- A path with the character NUL in it. -/
  | nulInPath
  | permissionDenied
  deriving DecidableEq, Repr

namespace OsError

def message : OsError → String
  | notFound => "No such file or directory (os error 2)"
  | permissionDenied => "Permission denied (os error 13)"
  | busy => "Device or resource busy (os error 16)"
  | alreadyExists => "File exists (os error 17)"
  | notDirectory => "Not a directory (os error 20)"
  | isDirectory => "Is a directory (os error 21)"
  | nameTooLong => "File name too long (os error 36)"
  | nulInPath => "file name contained an unexpected NUL byte"

end OsError

end ScriptPress.Disk
