import UiLang.Path

/-!
# Project settings

A project names the directory of its sources, the file to write, and the view
shown first. Settings are layered: later layers replace only the values they
set (non-empty ones). Settings are valid when no value is empty and the output
file ends in `.jsx` or `.js` (the case counts).
-/

namespace UiLang

/-- The settings of a project. -/
structure Config where
  input : String := "ui/input"
  output : String := "ui/output/App.jsx"
  defaultView : String := "Main"
  deriving DecidableEq, Repr

/-- Why settings are not valid. -/
inductive ConfigError
  | emptyInput
  | emptyOutput
  | emptyDefaultView
  | badOutput (path : String)
  deriving DecidableEq, Repr

/-- The text of invalid settings. -/
def ConfigError.message : ConfigError → String
  | .emptyInput => "config: input directory is empty"
  | .emptyOutput => "config: output path is empty"
  | .emptyDefaultView => "config: default_view is empty"
  | .badOutput p => "config: output " ++ p ++ " must be a .jsx or .js file"

namespace Config

/-- `c` with every non-empty value of `o` in place of its own. -/
def override (c o : Config) : Config where
  input := if o.input == "" then c.input else o.input
  output := if o.output == "" then c.output else o.output
  defaultView := if o.defaultView == "" then c.defaultView else o.defaultView

/-- The first reason the settings are not valid, if any. -/
def validate (c : Config) : Option ConfigError :=
  if c.input == "" then some .emptyInput
  else if c.output == "" then some .emptyOutput
  else if c.defaultView == "" then some .emptyDefaultView
  else if Path.ext c.output != ".jsx" && Path.ext c.output != ".js" then some (.badOutput c.output)
  else none

end Config

end UiLang
