/-!
# File operation errors

A failed file operation names the operation (`open`, `read`, `stat`, `mkdir`,
`remove`), the path as it was given, and the reason.
-/

namespace UiLang.Files

/-- Why a file operation failed. -/
inductive Reason
  | noEntry
  | notDir
  | isDir
  | notEmpty
  | exists
  | loop
  | denied
  | other (text : String)
  deriving DecidableEq, Repr

/-- The text of a reason. -/
def Reason.text : Reason → String
  | .noEntry => "no such file or directory"
  | .notDir => "not a directory"
  | .isDir => "is a directory"
  | .notEmpty => "directory not empty"
  | .exists => "file exists"
  | .loop => "too many levels of symbolic links"
  | .denied => "permission denied"
  | .other t => t

/-- A failed file operation. -/
structure FileError where
  op : String
  path : String
  reason : Reason
  deriving DecidableEq, Repr

/-- `op path: reason`. -/
def FileError.message (e : FileError) : String :=
  e.op ++ " " ++ e.path ++ ": " ++ e.reason.text

/-- What a path names: a file or a directory. -/
inductive Kind
  | file
  | dir
  deriving DecidableEq, Repr

end UiLang.Files
