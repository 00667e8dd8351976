import UiLang.Config.Load

/-!
# Starting a project

A new project gets the default settings file and sample sources: a definition
with a navigation bar and a greeting, and two views. A directory that already
has a settings file is left alone. The files are written one after another, and
the ones written before a failure are reported with it.
-/

namespace UiLang.Project

open Files

/-- The sample definition file. -/
def sampleDefinition : String :=
  "# Components shared by every view.\n\n" ++
  "BUTTON HomeButton:\n\tcolor = 'white'\n\tbackgroundcolor = 'gray'\n\ttext = 'Home'\n" ++
  "\tonclick = open(Main.view)\n\n" ++
  "BUTTON AboutButton:\n\tcolor = 'white'\n\tbackgroundcolor = 'gray'\n\ttext = 'About'\n" ++
  "\tonclick = open(About.view)\n\n" ++
  "CONTAINER NavBar:\n\tdirection = 'row'\n\tgap = 10\n\n" ++
  "TEXT Greeting:\n\ttext = t\n\tfontsize = 16\n\n" ++
  "BUTTON Bigger:\n\ttext = 'Bigger'\n\tonclick = set(Greeting.fontsize, Greeting.fontsize + 2)\n\n" ++
  "HomeButton AS hb\nAboutButton AS ab\nNavBar WITH components=[hb, ab] AS nb\n" ++
  "Greeting WITH t='Hello!' AS hello\nBigger AS bigger\n"

/-- The sample main view. -/
def sampleMain : String := "nb\nhello\nbigger\n"

/-- The sample second view. -/
def sampleAbout : String := "nb\nGreeting WITH t='Built with uic.'\n"

/-- Why a project could not be started. -/
inductive InitError
  | exists (path : String)
  | stat (e : FileError)
  | mkdir (path : String) (e : FileError)
  | write (path : String) (e : FileError)
  | save (e : FileError)
  deriving Repr

/-- The text of a failed start. -/
def InitError.message : InitError → String
  | .exists p => p ++ " already exists"
  | .stat e => e.message
  | .mkdir p e => "could not create directory " ++ p ++ ": " ++ e.message
  | .write p e => "could not write " ++ p ++ ": " ++ e.message
  | .save e => "writing " ++ settingsFile ++ ": " ++ e.message

/-- Writes the sample files into `input`, in order; gives the paths written and
the failure that stopped it, if any. -/
def writeSamples {m : Type → Type} [Monad m] [Host m] (input : String) :
    List (String × String) → List String → m (List String × Option InitError)
  | [], written => pure (written, none)
  | (name, text) :: rest, written => do
    let path := Path.join [input, name]
    match ← Host.writeFile path text with
    | .error e => pure (written, some (.write path e))
    | .ok () => writeSamples input rest (written ++ [path])

/-- Starts a project in `dir`: the sample sources in its default input directory,
then the settings file. Gives the paths written and the failure, if any. -/
def initProject {m : Type → Type} [Monad m] [Host m] (dir : String) :
    m (List String × Option InitError) := do
  let settings := Path.join [dir, settingsFile]
  match ← Host.stat settings with
  | .ok _ => pure ([], some (.exists settings))
  | .error e =>
    if e.reason != .noEntry then pure ([], some (.stat e))
    else
      let input := Path.join [dir, ({} : Config).input]
      match ← Host.mkdirAll input with
      | .error e => pure ([], some (.mkdir input e))
      | .ok () =>
        let (written, failure) ← writeSamples input
          [("App.def", sampleDefinition), ("Main.view", sampleMain), ("About.view", sampleAbout)] []
        match failure with
        | some f => pure (written, some f)
        | none =>
          match ← Host.writeFile settings settingsText with
          | .error e => pure (written, some (.save e))
          | .ok () => pure (written ++ [settings], none)

end UiLang.Project
