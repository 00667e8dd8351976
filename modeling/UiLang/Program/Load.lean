import UiLang.Program.Build
import UiLang.Syntax.Parse

/-!
# Loading source files

A definition file or a view file is loaded by reading its source text into a
syntax tree and building the program part from it. Loading fails at the first
stage that fails.
-/

namespace UiLang

/-- Why a file did not load: its text is not well formed, or a number in it does
not fit. -/
inductive LoadError (α : Type)
  | source (e : Syntax.SourceError α)
  | build (e : BuildError)

/-- The text of a load error. -/
def LoadError.message {α : Type} : LoadError α → String
  | .source e => e.message
  | .build e => e.message

/-- The definition section written in `source`. -/
def Definition.load (source : String) : Except (LoadError Syntax.DefFile) Definition :=
  match Syntax.DefFile.parse source with
  | .error e => .error (.source e)
  | .ok d =>
    match Definition.ofSyntax d with
    | .error e => .error (.build e)
    | .ok d => .ok d

/-- The view named `name` written in `source`. -/
def View.load (name source : String) : Except (LoadError Syntax.ViewFile) View :=
  match Syntax.ViewFile.parse source with
  | .error e => .error (.source e)
  | .ok v =>
    match View.ofSyntax name v with
    | .error e => .error (.build e)
    | .ok v => .ok v

end UiLang

namespace UiLang

/-- Why a program did not load: its definition file or one of its view files did
not load. -/
inductive ProgramError
  | definition (e : LoadError Syntax.DefFile)
  | view (name : String) (e : LoadError Syntax.ViewFile)

/-- The program made of a definition file and view files `(name, source)`, in
order; the first file that does not load is reported. -/
def Program.load (defSource : String) (views : List (String × String)) (defaultView : String) :
    Except ProgramError Program := do
  let d ← (Definition.load defSource).mapError .definition
  let vs ← views.mapM fun (n, src) => (View.load n src).mapError (.view n)
  pure ⟨d, vs, defaultView⟩

end UiLang
