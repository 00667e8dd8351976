import UiLang.Yaml.Settings
import UiLang.Files.Host

/-!
# Loading the settings of a project

The settings of a project directory are layered: the defaults, then the
settings file `uic.yaml` in that directory if there is one, then the
environment (`UIC_INPUT`, `UIC_OUTPUT`, `UIC_DEFAULT_VIEW`). Each layer replaces
only the values it sets. Relative input and output paths are then read from the
project directory.
-/

namespace UiLang

open Files

/-- The name of the settings file. -/
def settingsFile : String := "uic.yaml"

/-- The settings file a project starts with. -/
def settingsText : String :=
  "input: ui/input\noutput: ui/output/App.jsx\ndefault_view: Main\n"

/-- Why the settings could not be loaded. -/
inductive SettingsError
  | read (e : FileError)
  | parse (message : String)
  deriving Repr

/-- The text of a failed load. -/
def SettingsError.message : SettingsError → String
  | .read e => "reading config: " ++ e.message
  | .parse m => "parsing " ++ settingsFile ++ ": " ++ m

namespace Config

/-- The settings the environment gives; an unset variable reads as `""`. -/
def ofEnv (env : String → String) : Config :=
  ⟨env "UIC_INPUT", env "UIC_OUTPUT", env "UIC_DEFAULT_VIEW"⟩

/-- Reads relative input and output paths from the project directory `dir`. -/
def resolve (c : Config) (dir : String) : Config :=
  let under (p : String) := if p != "" && !Path.isAbs p then Path.join [dir, p] else p
  { c with input := under c.input, output := under c.output }

/-- The settings of the project directory `dir`: a missing settings file is no
error. -/
def load {m : Type → Type} [Monad m] [Host m] (dir : String) (env : String → String) :
    m (Except SettingsError Config) := do
  let path := Path.join [dir, settingsFile]
  match ← Host.readFile path with
  | .error e =>
    if e.reason == .noEntry then pure (.ok ((({} : Config).override (ofEnv env)).resolve dir))
    else pure (.error (.read e))
  | .ok text =>
    match Yaml.readSettings text with
    | .error msg => pure (.error (.parse msg))
    | .ok file => pure (.ok ((({} : Config).override file |>.override (ofEnv env)).resolve dir))

end Config

end UiLang
