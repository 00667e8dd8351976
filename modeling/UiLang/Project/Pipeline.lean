import UiLang.Path
import UiLang.Project.Error
import UiLang.Project.Progress
import UiLang.Jsx.App

/-!
# Compiling and building a project

A project is a directory holding exactly one `.def` file and at least one
`.view` file; other files and every directory are ignored. Views are taken in
the order of their names, and a view's name is its file name without `.view`.

Compiling reads the sources, loads the definition and then each view, and runs
the checks; the first failure is the answer. Building compiles and then writes
the App to the output path. A build that fails leaves nothing at the output
path, not even the App of an earlier build.
-/

namespace UiLang.Project

open Files

/-- The sources of a project: its definition file and its view files, in
order. -/
structure Sources where
  defFile : String
  viewFiles : List String
  deriving Repr

/-- The name of the definition file, without its directory. -/
def Sources.defName (s : Sources) : String := Path.base s.defFile

/-- The name of a view: its file name without `.view`. -/
def viewName (path : String) : String :=
  let file := Path.base path
  if file.endsWith ".view" then String.ofList (file.toList.take (file.length - 5)) else file

/-- Sorts the sources of a directory's entries, taken in order: the one
definition file and the view files. -/
def collectSources (dir : String) :
    List (String × Bool) → Option String → List String → Except ProjectError (Option String × List String)
  | [], d, vs => .ok (d, vs)
  | (name, isDir) :: rest, d, vs =>
    if isDir then collectSources dir rest d vs
    else
      let path := Path.join [dir, name]
      let ext := Path.ext name
      if ext == ".def" then
        match d with
        | some first => .error (.twoDefs dir first path)
        | none => collectSources dir rest (some path) vs
      else if ext == ".view" then collectSources dir rest d (vs ++ [path])
      else collectSources dir rest d vs

/-- The sources named by a directory's entries. -/
def sourcesOf (dir : String) (entries : List (String × Bool)) : Except ProjectError Sources := do
  let (d, vs) ← collectSources dir entries none []
  match d with
  | none => throw (.noDef dir)
  | some defFile =>
    if vs.isEmpty then throw (.noView dir)
    else pure ⟨defFile, vs.mergeSort fun a b => viewName a ≤ viewName b⟩

section Pipeline

variable {m : Type → Type} [Monad m] [Host m]

/-- Runs a file operation, naming its failure as a project failure. -/
def attempt {α : Type} (act : m (Except FileError α)) (why : FileError → ProjectError) :
    ExceptT ProjectError m α :=
  ExceptT.mk ((·.mapError why) <$> act)

/-- The sources of the input directory. -/
def discover (dir : String) : ExceptT ProjectError m Sources := do
  let entries ← attempt (Host.readDir dir) .readInput
  liftExcept (sourcesOf dir entries)
where
  liftExcept {α : Type} (x : Except ProjectError α) : ExceptT ProjectError m α := ExceptT.mk (pure x)

/-- Reads and loads one view file. -/
def loadView (path : String) : ExceptT ProjectError m View := do
  let source ← attempt (Host.readFile path) (.readSource path)
  let name := viewName path
  match View.load name source with
  | .ok v => pure v
  | .error (.source e) => throw (.viewSource (name ++ ".view") e)
  | .error (.build e) => throw (.viewBuild e)

/-- Reads and loads every source: the definition, then each view. -/
def loadProgram (verbose : Bool) (src : Sources) (defaultView : String) :
    ExceptT ProjectError m Program := do
  let start ← startStage (m := m) verbose "Parsing"
  let source ← attempt (Host.readFile src.defFile) (.readSource src.defFile)
  let d ← match Definition.load source with
    | .ok d => pure d
    | .error e => throw (.definition src.defName e)
  let views ← src.viewFiles.mapM loadView
  finishStage (m := m) verbose "Parsing" start
  pure ⟨d, views, defaultView⟩

/-- Runs the checks on a loaded program. -/
def checkProgram (verbose : Bool) (p : Program) (defFile : String) :
    ExceptT ProjectError m Unit := do
  let start ← startStage (m := m) verbose "Static checking"
  match Check.analyze p defFile with
  | some (pass, found) => throw (.check pass found)
  | none => finishStage (m := m) verbose "Static checking" start

/-- Discovers, loads and checks the sources in `input`; the default view is
`defaultView`. -/
def compile (verbose : Bool) (input defaultView : String) :
    ExceptT ProjectError m (Sources × Program) := do
  let start ← startStage (m := m) verbose "Reading files"
  let src ← discover input
  finishStage (m := m) verbose "Reading files" start
  let p ← loadProgram verbose src defaultView
  checkProgram verbose p src.defName
  pure (src, p)

/-- Writes the App of a program at `path`, creating its directory; a failed
generation removes the file. -/
def writeOutput (path : String) (p : Program) : ExceptT ProjectError m Unit := do
  attempt (Host.mkdirAll (Path.dir path)) fun e => .output path (.mkdir e)
  attempt (Host.writeFile path "") fun e => .output path (.create e)
  match Jsx.generate p with
  | .ok text => attempt (Host.writeFile path text) fun e => .output path (.create e)
  | .error g =>
    let _ ← (Host.remove path : m _)
    throw (.output path (.generate g))

/-- Removes the output of an earlier build; a missing one is fine. -/
def removeStale (path : String) : m (Except FileError Unit) := do
  match ← Host.remove path with
  | .error e => pure (if e.reason == .noEntry then .ok () else .error e)
  | .ok () => pure (.ok ())

/-- Compiles the sources in `input` and writes the App at `output`. -/
def build (verbose : Bool) (input output defaultView : String) : ExceptT ProjectError m Unit := do
  let compiled : Except ProjectError (Sources × Program) ←
    ((compile (m := m) verbose input defaultView).run : m _)
  match compiled with
  | .error e =>
    match ← removeStale (m := m) output with
    | .ok () => throw e
    | .error re => throw (.stale e re)
  | .ok (_, p) =>
    let start ← startStage (m := m) verbose "Evaluating"
    writeOutput output p
    finishStage (m := m) verbose "Evaluating" start

end Pipeline

end UiLang.Project
