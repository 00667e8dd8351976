import UiLang.Check.Names
import UiLang.Check.Views
import UiLang.Check.Properties

/-!
# Checking a program

The four checks run in a fixed order — name resolution, parameter scope, view
reference, property type — and checking stops at the first that finds
anything. A program that passes is summarised by what it holds.
-/

namespace UiLang.Check

/-- The checks, in the order they run. -/
inductive Pass
  | names
  | params
  | views
  | properties
  deriving DecidableEq, Repr

namespace Pass

/-- The name of a check. -/
def name : Pass → String
  | .names => "name resolution"
  | .params => "parameter scope"
  | .views => "view reference"
  | .properties => "property type"

/-- The findings of a check. -/
def run : Pass → Program → String → List Diagnostic
  | .names => checkNames
  | .params => checkParams
  | .views => checkViews
  | .properties => checkProperties

/-- The checks in order. -/
def all : List Pass := [.names, .params, .views, .properties]

end Pass

/-- The first check with findings, and its findings; `none` when every check
passes. -/
def analyze (p : Program) (defFile : String) : Option (Pass × List Diagnostic) :=
  Pass.all.findSome? fun pass =>
    match pass.run p defFile with
    | [] => none
    | ds => some (pass, ds)

/-- `""` for one, `s` for any other count. -/
def plural (n : Nat) : String := if n = 1 then "" else "s"

/-- `N thing` or `N things`. -/
def countOf (n : Nat) (thing : String) : String := toString n ++ " " ++ thing ++ plural n

/-- What a checked program holds: `App.def is valid: 2 components, 1 view`,
leaving out counts of zero. -/
def summary (p : Program) (defFile : String) : String :=
  let parts :=
    (if p.definition.components.isEmpty then [] else
      [countOf p.definition.components.length "component"]) ++
    (if p.definition.vars.isEmpty then [] else
      [countOf p.definition.vars.length "variable"]) ++
    (if p.views.isEmpty then [] else [countOf p.views.length "view"])
  defFile ++ " is valid" ++ (if parts.isEmpty then "" else ": " ++ ", ".intercalate parts)

/-- The file of the default view when no view has its name, else `""`. -/
def missingDefaultView (p : Program) : String :=
  if p.views.any (·.name == p.defaultView) then "" else p.defaultView ++ ".view"

/-- `pass check failed with N error(s)`. -/
def failureMessage (pass : Pass) (n : Nat) : String :=
  pass.name ++ " check failed with " ++ countOf n "error"

end UiLang.Check
