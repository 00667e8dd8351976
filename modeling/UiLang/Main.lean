import UiLang.Cli.Run

/-!
# The `uic` command

Runs `uic` on the machine it is started on: its files, its standard streams,
its clock in milliseconds, and the `UIC_*` variables of its environment. A
failed operation is named by the operating system's error number, as the model
machine names it.
-/

namespace UiLang.Cli

open Files

/-- The error number of an operating-system error, if it carries one. -/
def errorNumber : IO.Error → Option UInt32
  | .alreadyExists _ c _ | .otherError c _ | .resourceBusy c _ | .resourceVanished c _
  | .unsupportedOperation c _ | .hardwareFault c _ | .unsatisfiedConstraints c _
  | .illegalOperation c _ | .protocolError c _ | .timeExpired c _ | .interrupted _ c _
  | .noFileOrDirectory _ c _ | .invalidArgument _ c _ | .permissionDenied _ c _
  | .resourceExhausted _ c _ | .inappropriateType _ c _ | .noSuchThing _ c _ => some c
  | _ => none

/-- Why an operating-system operation failed. Some operations report the error
number negated. -/
def reasonOf (e : IO.Error) : Reason :=
  match (errorNumber e).map fun c => if c ≥ 0x80000000 then 0 - c else c with
  | some 2 => .noEntry
  | some 20 => .notDir
  | some 21 => .isDir
  | some 39 => .notEmpty
  | some 17 => .exists
  | some 13 => .denied
  | some 30 => .other "read-only file system"
  | some 36 => .other "file name too long"
  | some 40 => .loop
  | some 28 => .other "no space left on device"
  | _ => .other (toString e)

/-- Runs an operation of the machine; a failure is named as `op` on `path`. -/
def attemptIO {α : Type} (op path : String) (act : IO α) : IO (Except FileError α) := do
  try pure (.ok (← act)) catch e => pure (.error ⟨op, path, reasonOf e⟩)

/-- What a path of the machine names, following links. -/
def statIO (p : String) : IO (Except FileError Kind) := do
  match ← attemptIO "stat" p (System.mkFilePath [p]).metadata with
  | .ok md => pure (.ok (if md.type == .dir then .dir else .file))
  | .error e => pure (.error e)

/-- Whether a path of the machine is a directory itself, not following links. -/
def isDirIO (p : String) : IO Bool := do
  match ← attemptIO "lstat" p (System.mkFilePath [p]).symlinkMetadata with
  | .ok md => pure (md.type == .dir)
  | .error _ => pure false

/-- The path before the last name of `p`, as written. -/
def parentText (p : String) : String :=
  let cs := (p.toList.reverse.dropWhile (· == '/')).dropWhile (· != '/')
  String.ofList (cs.dropWhile (· == '/')).reverse

/-- Creates a directory and its missing parents; the first existing
non-directory on the way is the error. -/
def mkdirAllIO (p : String) : (fuel : Nat) → IO (Except FileError Unit)
  | 0 => pure (.ok ())
  | fuel + 1 => do
    match ← statIO p with
    | .ok .dir => pure (.ok ())
    | .ok .file => pure (.error ⟨"mkdir", p, .notDir⟩)
    | .error _ =>
      let parent := parentText p
      let up ← if parent.isEmpty then pure (.ok ()) else mkdirAllIO parent fuel
      match up with
      | .error e => pure (.error e)
      | .ok () =>
        match ← attemptIO "mkdir" p (IO.FS.createDir p) with
        | .ok () => pure (.ok ())
        | .error e => if ← isDirIO p then pure (.ok ()) else pure (.error e)

instance : Host IO where
  readFile p := do
    match ← attemptIO "open" p (IO.FS.readFile p) with
    | .error e => pure (.error (if e.reason == .isDir then { e with op := "read" } else e))
    | .ok s => pure (.ok s)
  readDir p := do
    match ← attemptIO "open" p (System.mkFilePath [p]).readDir with
    | .error e => pure (.error e)
    | .ok es =>
      let named ← es.toList.mapM fun e => do pure (e.fileName, ← isDirIO e.path.toString)
      pure (.ok (named.mergeSort fun a b => a.1 ≤ b.1))
  stat := statIO
  mkdirAll p := mkdirAllIO p (p.length + 1)
  writeFile p s := attemptIO "open" p (IO.FS.writeFile p s)
  remove p := do
    match ← attemptIO "remove" p (IO.FS.removeFile p) with
    | .ok () => pure (.ok ())
    | .error unlinkErr =>
      match ← attemptIO "remove" p (IO.FS.removeDir p) with
      | .ok () => pure (.ok ())
      | .error rmdirErr => pure (.error (if rmdirErr.reason != .notDir then rmdirErr else unlinkErr))
  out s := do
    let stdout ← IO.getStdout
    stdout.putStr s
    stdout.flush
  err s := do
    let stderr ← IO.getStderr
    stderr.putStr s
    stderr.flush
  clock := IO.monoMsNow

end UiLang.Cli

/-- Runs `uic` with the command-line arguments. -/
def main (args : List String) : IO UInt32 := do
  let vars ← ["UIC_INPUT", "UIC_OUTPUT", "UIC_DEFAULT_VIEW"].mapM fun k => do
    pure (k, (← IO.getEnv k).getD "")
  let code ← UiLang.Cli.run (m := IO) (fun k => (vars.lookup k).getD "") args
  pure code.toUInt32
