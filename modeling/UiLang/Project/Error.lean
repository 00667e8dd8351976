import UiLang.Files.Error
import UiLang.Program.Load
import UiLang.Check.Analyze
import UiLang.Jsx.Error

/-!
# Why a project does not compile or build

Each stage of the pipeline has its own failure, and its text says which file or
directory it concerns. A failed check carries its findings, which are printed
as a report. A failed build that cannot remove the output of an earlier build
reports both failures, one per line.
-/

namespace UiLang.Project

open Files

/-- Why the App could not be written. -/
inductive OutputError
  | mkdir (e : FileError)
  | create (e : FileError)
  | generate (e : Jsx.GenError)

/-- The text of an output failure. -/
def OutputError.message : OutputError → String
  | .mkdir e => "creating output directory: " ++ e.message
  | .create e => "creating output: " ++ e.message
  | .generate e => e.message

/-- Why a project did not compile or build. -/
inductive ProjectError
  | readInput (e : FileError)
  | twoDefs (dir first second : String)
  | noDef (dir : String)
  | noView (dir : String)
  | readSource (path : String) (e : FileError)
  | definition (file : String) (e : LoadError Syntax.DefFile)
  | viewSource (file : String) (e : Syntax.SourceError Syntax.ViewFile)
  | viewBuild (e : BuildError)
  | check (pass : Check.Pass) (found : List Check.Diagnostic)
  | output (path : String) (e : OutputError)
  | stale (first : ProjectError) (e : FileError)

/-- The text of a project failure. -/
def ProjectError.message : ProjectError → String
  | .readInput e => "reading input directory: " ++ e.message
  | .twoDefs dir a b => dir ++ ": more than one .def file (" ++ a ++ ", " ++ b ++ ")"
  | .noDef dir => dir ++ ": no .def file found"
  | .noView dir => dir ++ ": no .view files found"
  | .readSource path e => "reading " ++ path ++ ": " ++ e.message
  | .definition file e => file ++ ": " ++ e.message
  | .viewSource file e => file ++ ": " ++ e.message
  | .viewBuild e => e.message
  | .check pass found => Check.failureMessage pass found.length
  | .output path e => "generating " ++ path ++ ": " ++ e.message
  | .stale first e => first.message ++ "\nremoving stale output: " ++ e.message

/-- The failed check inside a project failure, if it is one: a build that also
could not remove old output still failed its check. -/
def ProjectError.checkFailure? : ProjectError → Option (Check.Pass × List Check.Diagnostic)
  | .check pass found => some (pass, found)
  | .stale first _ => first.checkFailure?
  | _ => none

/-- A failed check as printed: each finding with its suggestion, a blank line,
and the failure. -/
def checkReport (pass : Check.Pass) (found : List Check.Diagnostic) : String :=
  String.join (found.map fun d => Check.Diagnostic.reportLines d ++ "\n") ++
    "\n✗ " ++ Check.failureMessage pass found.length ++ "\n"

end UiLang.Project
