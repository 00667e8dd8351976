/-!
# Slash-separated paths

Paths are strings of names separated by `/`. The clean form of a path has no
empty or `.` names and no name followed by `..`; a rooted path keeps its
leading `/` and drops `..` right after it, and the empty path cleans to `.`.
-/

namespace UiLang.Path

/-- The names of a path, without empty ones. -/
def names (p : String) : List String :=
  (p.splitOn "/").filter (· != "")

/-- Resolves `.` and `..` in a list of names, read left to right; `acc` holds
the names kept so far, last first. A rooted path drops a `..` it cannot undo. -/
def resolve (rooted : Bool) : List String → List String → List String
  | acc, [] => acc.reverse
  | acc, "." :: ns => resolve rooted acc ns
  | acc, ".." :: ns =>
    match acc with
    | n :: rest => if n == ".." then resolve rooted (".." :: acc) ns else resolve rooted rest ns
    | [] => if rooted then resolve rooted [] ns else resolve rooted [".."] ns
  | acc, n :: ns => resolve rooted (n :: acc) ns

/-- Whether a path starts at the root. -/
def isAbs (p : String) : Bool := p.startsWith "/"

/-- The clean form of a path. -/
def clean (p : String) : String :=
  let body := "/".intercalate (resolve (isAbs p) [] (names p))
  if isAbs p then "/" ++ body
  else if body == "" then "." else body

/-- The non-empty parts joined by `/` and cleaned; `""` when all are empty. -/
def join (parts : List String) : String :=
  match parts.filter (· != "") with
  | [] => ""
  | ps => clean ("/".intercalate ps)

/-- The extension of a path: its last name's suffix from the last `.`, or `""`. -/
def ext (p : String) : String :=
  let last := (p.splitOn "/").getLastD ""
  match (last.splitOn ".") with
  | [] | [_] => ""
  | parts => "." ++ parts.getLastD ""

/-- The last name of a path. -/
def base (p : String) : String := (p.splitOn "/").getLastD ""

/-- The directory of a path: everything up to its last `/`, cleaned; `.` when
there is no `/`. -/
def dir (p : String) : String :=
  match (p.splitOn "/").dropLast with
  | [] => "."
  | front => clean ("/".intercalate front ++ "/")

end UiLang.Path
