import UiLang.Files.Host
import UiLang.Path

/-!
# A model machine

The model holds a tree of files, directories and symbolic links, keyed by
clean path, the files that refuse to be opened for writing, and what was printed
to each stream. The directory `.` (and `/`) always exists. A path resolves name by name: a missing name is
`no such file or directory`, and a file where a directory is needed is
`not a directory`. A symbolic link is replaced by its target, read relative to
the link's directory, and a resolution that follows more than forty links is
`too many levels of symbolic links`.

Its clock stands still, so every stage takes `0s`.
-/

namespace UiLang.Files

/-- An entry of the tree. -/
inductive Entry
  | file (content : String)
  | dir
  | link (target : String)
  deriving DecidableEq, Repr

/-- A model machine: the entries by clean path; the files, by clean path, that
refuse to be opened for writing, each with the reason the system gives (no
permission, a read-only file system, an input/output error); and the two output
streams. -/
structure Machine where
  entries : List (String × Entry) := []
  unwritable : List (String × Reason) := []
  stdout : String := ""
  stderr : String := ""
  deriving Repr

namespace Machine

/-- The entry at a clean path. -/
def get? (w : Machine) (p : String) : Option Entry :=
  if p == "." || p == "/" then some .dir else w.entries.lookup p

/-- The clean paths of the proper ancestors of a clean path, outermost first. -/
def ancestors (p : String) : List String :=
  let ns := Path.names p
  let pre := if Path.isAbs p then "/" else ""
  (List.range (ns.length - 1)).map fun i => pre ++ "/".intercalate (ns.take (i + 1))

/-- The directory of a clean path. -/
def parentOf (p : String) : String :=
  match (ancestors p).getLast? with
  | some a => a
  | none => if Path.isAbs p then "/" else "."

/-- The most symbolic links one path resolution follows. -/
def maxHops : Nat := 40

/-- Where a path leads: an entry at a clean path of the tree, or a last name
that is missing from an existing directory. -/
inductive Place
  | found (path : String) (entry : Entry)
  | missing (dir name : String)

/-- Walks the names `ns` from the directory `cur`, a clean path of the tree.
Every name but the last must lead to a directory. A link met before the last
name, or at the last name when `follow` holds, is replaced by the names of its
target, read from `cur` (or from the root when the target is rooted); following
a link costs a hop, and one more hop than `maxHops` is a loop. `..` goes to the
parent of the directory reached so far, as the walk follows the tree and not the
text of the path. -/
def walk (w : Machine) (follow : Bool) : Nat → Nat → String → List String → Except Reason Place
  | 0, _, _, _ => .error .loop
  | _ + 1, _, cur, [] => .ok (.found cur .dir)
  | fuel + 1, hops, cur, n :: ns =>
    if n == "." then
      walk w follow fuel hops cur ns
    else if n == ".." then
      walk w follow fuel hops (Path.join [cur, ".."]) ns
    else
      let q := Path.join [cur, n]
      match w.get? q with
      | none => if ns.isEmpty then .ok (.missing cur n) else .error .noEntry
      | some (.file s) => if ns.isEmpty then .ok (.found q (.file s)) else .error .notDir
      | some .dir => if ns.isEmpty then .ok (.found q .dir) else walk w follow fuel hops q ns
      | some (.link t) =>
        if ns.isEmpty && !follow then .ok (.found q (.link t))
        else if hops == maxHops then .error .loop
        else if Path.names t == [] then .error .noEntry
        else walk w follow fuel (hops + 1) (if Path.isAbs t then "/" else cur) (Path.names t ++ ns)

/-- Enough steps for `walk` to finish on the path `p`: each step takes one name,
and each of at most `maxHops + 1` hops adds the names of one link target. -/
def walkFuel (w : Machine) (p : String) : Nat :=
  let widest := w.entries.foldl (fun m e =>
    match e.2 with
    | .link t => max m (Path.names t).length
    | _ => m) 0
  (Path.names p).length + (maxHops + 1) * (widest + 1) + 1

/-- Where a path leads, following a last link when `follow` holds. The empty
path names nothing. -/
def locate (w : Machine) (p : String) (follow : Bool) : Except Reason Place :=
  if p == "" then .error .noEntry
  else walk w follow (walkFuel w p) 0 (if Path.isAbs p then "/" else ".") (Path.names p)

/-- Sets the entry at a clean path; a new entry may be written. -/
def put (w : Machine) (p : String) (e : Entry) : Machine :=
  { w with entries := (w.entries.filter (·.1 != p)) ++ [(p, e)],
           unwritable := w.unwritable.filter (·.1 != p) }

/-- Whether `q` lies inside the directory `p` (both clean). -/
def isInside (p q : String) : Bool :=
  if p == "." then q != "." && !Path.isAbs q
  else (p ++ "/").isPrefixOf q || (p == "/" && Path.isAbs q && q != "/")

/-- The entries directly inside the directory `p` (clean), sorted by name. -/
def children (w : Machine) (p : String) : List (String × Bool) :=
  let direct := w.entries.filter fun (q, _) => isInside p q && parentOf q == p
  let named := direct.map fun (q, e) => (Path.base q, e == .dir)
  named.mergeSort fun a b => a.1 ≤ b.1

/-- Reads a file. -/
def readFile (w : Machine) (p : String) : Except FileError String :=
  match locate w p true with
  | .ok (.found _ (.file s)) => .ok s
  | .ok (.found _ _) => .error ⟨"read", p, .isDir⟩
  | .ok (.missing _ _) => .error ⟨"open", p, .noEntry⟩
  | .error r => .error ⟨"open", p, r⟩

/-- Lists a directory. -/
def readDir (w : Machine) (p : String) : Except FileError (List (String × Bool)) :=
  match locate w p true with
  | .ok (.found c .dir) => .ok (children w c)
  | .ok (.found _ _) => .error ⟨"open", p, .notDir⟩
  | .ok (.missing _ _) => .error ⟨"open", p, .noEntry⟩
  | .error r => .error ⟨"open", p, r⟩

/-- What a path names. -/
def stat (w : Machine) (p : String) : Except FileError Kind :=
  match locate w p true with
  | .ok (.found _ .dir) => .ok .dir
  | .ok (.found _ _) => .ok .file
  | .ok (.missing _ _) => .error ⟨"stat", p, .noEntry⟩
  | .error r => .error ⟨"stat", p, r⟩

/-- Creates a directory and its missing parents, outermost first: a step that
names a directory is done, one that names something else is `not a directory`,
and a name taken by a link that leads nowhere is `file exists`. -/
def mkdirAll (w : Machine) (p : String) : Except FileError Machine :=
  let c := Path.clean p
  let steps := ancestors c ++ [c]
  steps.foldlM (fun w q =>
    match locate w q true with
    | .ok (.found _ .dir) => .ok w
    | .ok (.found _ _) => .error ⟨"mkdir", q, .notDir⟩
    | _ =>
      match locate w q false with
      | .ok (.missing d n) => .ok (w.put (Path.join [d, n]) .dir)
      | .ok (.found _ _) => .error ⟨"mkdir", q, .exists⟩
      | .error r => .error ⟨"mkdir", q, r⟩) w

/-- Creates or replaces a file; its directory must exist, and a file that is
there must not refuse writing. Writing through a link writes its target, and
creates it when it is missing. -/
def writeFile (w : Machine) (p : String) (content : String) : Except FileError Machine :=
  match locate w p true with
  | .ok (.found q (.file _)) =>
    match w.unwritable.lookup q with
    | some r => .error ⟨"open", p, r⟩
    | none => .ok (w.put q (.file content))
  | .ok (.found _ _) => .error ⟨"open", p, .isDir⟩
  | .ok (.missing d n) => .ok (w.put (Path.join [d, n]) (.file content))
  | .error r => .error ⟨"open", p, r⟩

/-- The machine without the entry at a clean path. -/
def erase (w : Machine) (c : String) : Machine :=
  { w with entries := w.entries.filter (·.1 != c), unwritable := w.unwritable.filter (·.1 != c) }

/-- Removes a file, a link or an empty directory, also one that refuses writing. -/
def remove (w : Machine) (p : String) : Except FileError Machine :=
  match locate w p false with
  | .ok (.found c .dir) =>
    if w.entries.any (fun (q, _) => isInside c q) then .error ⟨"remove", p, .notEmpty⟩
    else .ok (w.erase c)
  | .ok (.found c _) => .ok (w.erase c)
  | .ok (.missing _ _) => .error ⟨"remove", p, .noEntry⟩
  | .error r => .error ⟨"remove", p, r⟩

/-- The content of the file a path names, if it names one. -/
def contentOf? (w : Machine) (p : String) : Option String := (w.readFile p).toOption

/-- Whether a path names a file or a directory. -/
def holds (w : Machine) (p : String) : Bool := (w.stat p).toOption.isSome

/-- Creates a directory and its parents; a failure leaves the machine as it was. -/
def makeDir (w : Machine) (p : String) : Machine := (w.mkdirAll p).toOption.getD w

/-- Writes a file after creating its directory; a failure leaves the machine as
it was. -/
def place (w : Machine) (p content : String) : Machine :=
  let w := w.makeDir (Path.dir p)
  (w.writeFile p content).toOption.getD w

/-- Adds a symbolic link at a path. -/
def addLink (w : Machine) (p target : String) : Machine := w.put (Path.clean p) (.link target)

/-- The regular files inside the directory `.`, with their content, sorted by
path. -/
def files (w : Machine) : List (String × String) :=
  let fs := w.entries.filterMap fun
    | (q, .file s) => if Path.isAbs q then none else some (q, s)
    | _ => none
  fs.mergeSort fun a b => a.1 ≤ b.1

end Machine

/-- A state-changing step on the model that may fail. -/
def Machine.step {α : Type} (f : Machine → Except FileError (α × Machine)) :
    StateM Machine (Except FileError α) :=
  fun w => match f w with
    | .ok (a, w') => (.ok a, w')
    | .error e => (.error e, w)

instance : Host (StateM Machine) where
  readFile p := fun w => (w.readFile p, w)
  readDir p := fun w => (w.readDir p, w)
  stat p := fun w => (w.stat p, w)
  mkdirAll p := Machine.step fun w => (w.mkdirAll p).map fun w' => ((), w')
  writeFile p s := Machine.step fun w => (w.writeFile p s).map fun w' => ((), w')
  remove p := Machine.step fun w => (w.remove p).map fun w' => ((), w')
  out s := fun w => ((), { w with stdout := w.stdout ++ s })
  err s := fun w => ((), { w with stderr := w.stderr ++ s })
  clock := pure 0

end UiLang.Files
